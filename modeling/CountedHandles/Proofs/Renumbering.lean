import CountedHandles.Proofs.Twins

/-!
# Renumbered sessions

Serial numbers only tell handles apart. Two sessions are the same up to an exchange of numbers if
everything that can be seen of the one can be seen of the other under the exchanged numbers: the
handles under every name and in the sets with their forms and contents, and every referent with its
links, its count and its roster. For consistent stores it is enough that every handle stands in the
same way.
-/

namespace CountedHandles

/-- Two referents that are the same up to an exchange of serial numbers. -/
structure Referent.Renumbered (change : Serial → Serial) (referent other : Referent) : Prop where
  /-- The names are the same. -/
  name_eq : other.name = referent.name
  /-- The places are the same. -/
  address_eq : other.address = referent.address
  /-- The values are the same. -/
  value_eq : other.value = referent.value
  /-- The links correspond. -/
  links_eq : other.links = referent.links.map change
  /-- The counts are the same. -/
  count_eq : other.count = referent.count
  /-- The rosters list corresponding handles with corresponding provenances. -/
  provenance?_eq : ∀ s, other.roster.provenance? (change s) =
    (referent.roster.provenance? s).map (Provenance.renumber change)

/-- Two sessions that are the same up to an exchange of serial numbers. -/
structure Session.Renumbered (change : Equiv.Perm Serial) (session other : Session) : Prop where
  /-- As many numbers have been given out. -/
  nextSerial_eq : other.store.nextSerial = session.store.nextSerial
  /-- The same referents have been created. -/
  created_eq : other.created = session.created
  /-- Every name stands for corresponding handles. -/
  serial?_eq : ∀ name, other.serial? name = (session.serial? name).map change
  /-- The sets have corresponding members. -/
  members_eq : ∀ scheme, other.members scheme = (session.members scheme).map change
  /-- Corresponding handles have the same form and the same content. -/
  handle?_eq : ∀ s, other.store.handle? (change s) =
    (session.store.handle? s).map fun handle => { handle with serial := change handle.serial }
  /-- The referents correspond. -/
  referents : List.Forall₂ (Referent.Renumbered change) session.store.referents
    other.store.referents

/-- Lists that are the same in some respect correspond member by member. -/
theorem forall₂_of_map_eq {view : α → β} {related : α → α → Prop} {members others : List α}
    (hview : others.map view = members.map view)
    (h : ∀ x ∈ members, ∀ y ∈ others, view y = view x → related x y) :
    List.Forall₂ related members others := by
  induction members generalizing others with
  | nil =>
    rw [List.map_nil, List.map_eq_nil_iff] at hview
    rw [hview]
    exact .nil
  | cons x members ih =>
    obtain ⟨y, others, rfl, hhead, htail⟩ := List.map_eq_cons_iff.mp hview
    refine .cons (h x List.mem_cons_self y List.mem_cons_self hhead) (ih htail ?_)
    exact fun a ha b hb => h a (List.mem_cons_of_mem _ ha) b (List.mem_cons_of_mem _ hb)

namespace Store

variable {config : Config} {store other : Store} {s : Serial} {address : Address}
  {referent : Referent} {change : Equiv.Perm Serial}

/-- A handle holds an address if it stands with that address. -/
theorem holds_iff_standing? (hnodup : store.serials.Nodup) :
    store.Holds s address ↔
      ∃ standing, store.standing? s = some standing ∧ standing.slot.address = address := by
  constructor
  · rintro ⟨handle, hmem, rfl, haddress⟩
    exact ⟨_, standing?_of_handle? (handle?_of_mem hnodup hmem), haddress⟩
  · rintro ⟨standing, hstanding, haddress⟩
    have hfound := (handle?_of_standing? hstanding).1
    exact ⟨_, mem_of_handle? hfound, rfl, haddress⟩

/-- A referent lists a handle that holds it with its origin, and no other handle. -/
theorem Consistent.provenance?_eq (h : store.Consistent config)
    (hmem : referent ∈ store.referents) :
    referent.roster.provenance? s = (store.standing? s).bind fun standing =>
      if store.nameAt? standing.slot = some referent.name then standing.origin? else none := by
  have hlisted : ¬ store.Holds s referent.address → referent.roster.provenance? s = none := by
    intro hnot
    rw [← Option.not_isSome_iff_eq_none]
    exact fun hcontains => hnot (((h.reflects referent hmem).contains_iff s).mp hcontains).2
  cases hfound : store.handle? s with
  | none =>
    rw [standing?, hfound, Option.map_none, Option.bind_none]
    refine hlisted ?_
    rintro ⟨handle, hhandle, rfl, -⟩
    exact handle?_eq_none_iff.mp hfound (List.mem_map_of_mem hhandle)
  | some handle =>
    rw [standing?_of_handle? hfound, Option.bind_some]
    split
    · rename_i hname
      rw [origin?, target?_of_handle? hfound, hname, Option.bind_some, h.referent?_of_mem hmem,
        Option.bind_some]
    · rename_i hname
      refine hlisted fun hholds => hname ?_
      rw [h.nameAt?_eq_name_iff hmem]
      exact (holds_iff_of_handle? h.nodup_serials hfound).mp hholds

/-- The holders of an address are known by their serial numbers. -/
theorem mem_map_serial_holders :
    s ∈ (store.holders address).map Handle.serial ↔ store.Holds s address := by
  simp only [holders, Holds, List.mem_map, List.mem_filter, beq_iff_eq, and_assoc]
  exact exists_congr fun handle => and_congr_right fun _ => and_comm

variable (h : store.Consistent config) (hother : other.Consistent config)
  (hstanding : ∀ s, other.standing? (change s) =
    (store.standing? s).map (Standing.renumber change))

include h hother hstanding

/-- Where corresponding handles stand in the same way as many hold an address. -/
theorem length_holders_of_standing? :
    (other.holders address).length = (store.holders address).length := by
  have hnodup {store : Store} (h : store.Consistent config) :
      ((store.holders address).map Handle.serial).Nodup :=
    h.nodup_serials.sublist (List.filter_sublist.map Handle.serial)
  have hperm : (((store.holders address).map Handle.serial).map change).Perm
      ((other.holders address).map Handle.serial) := by
    refine (List.perm_ext_iff_of_nodup ((hnodup h).map change.injective) (hnodup hother)).mpr ?_
    intro s
    obtain ⟨s, rfl⟩ := change.surjective s
    rw [List.mem_map_of_injective change.injective, mem_map_serial_holders, mem_map_serial_holders,
      holds_iff_standing? h.nodup_serials, holds_iff_standing? hother.nodup_serials, hstanding]
    constructor
    · rintro ⟨standing, hsome, haddress⟩
      exact ⟨standing.renumber change, by rw [hsome, Option.map_some], haddress⟩
    · rintro ⟨standing, hsome, haddress⟩
      obtain ⟨old, hold, rfl⟩ := Option.map_eq_some_iff.mp hsome
      exact ⟨old, hold, haddress⟩
  have hlength := hperm.length_eq
  rw [List.length_map, List.length_map, List.length_map] at hlength
  exact hlength.symm

/-- Where corresponding handles stand in the same way the referents correspond. -/
theorem referents_renumbered (hground : other.census.ground = store.census.ground)
    (hlinks : ∀ referent ∈ store.referents, ∀ s ∈ referent.links, change s = s) :
    List.Forall₂ (Referent.Renumbered change) store.referents other.referents := by
  refine forall₂_of_map_eq hground fun referent hmem referent' hmem' hbare => ?_
  have hname := Referent.name_of_bare hbare
  have haddress := Referent.address_of_bare hbare
  have hvalue : referent'.bare.value = referent.bare.value := by rw [hbare]
  have hlinked : referent'.bare.links = referent.bare.links := by rw [hbare]
  refine ⟨hname, haddress, hvalue, ?_, ?_, fun s => ?_⟩
  · have hfixed := List.map_congr_left (hlinks referent hmem)
    rw [List.map_id'] at hfixed
    exact hlinked.trans hfixed.symm
  · rw [(hother.reflects referent' hmem').count_eq, (h.reflects referent hmem).count_eq, haddress]
    exact length_holders_of_standing? h hother hstanding
  · rw [hother.provenance?_eq hmem', h.provenance?_eq hmem, hstanding, hname, Option.bind_map,
      Option.map_bind]
    refine Option.bind_congr fun standing _ => ?_
    rw [Function.comp_apply, Function.comp_apply, nameAt?_of_ground hground,
      apply_ite (Option.map (Provenance.renumber change))]
    rfl

end Store

end CountedHandles
