import CountedHandles.Proofs.Passage
import CountedHandles.Session

/-!
# Keeping handles

Between commands every handle that exists is kept in exactly one place: under a name, in a set or as
a link of a referent. In the middle of a command some handles are loose. This file follows the loose
and the kept handles through the elementary steps of commands.
-/

namespace CountedHandles

/-- If parts of two lists are exchanged between them, together they stay the same up to order. -/
theorem perm_exchange [BEq α] [LawfulBEq α] {gone new loose part part' rest all all' : List α}
    (hparts : (new ++ part').Perm (gone ++ part)) (hall : all.Perm (part ++ rest))
    (hall' : all'.Perm (part' ++ rest)) :
    (new ++ loose ++ all').Perm (gone ++ loose ++ all) := by
  rw [List.perm_iff_count] at hparts hall hall' ⊢
  intro x
  have hpart := hparts x
  have hx := hall x
  have hx' := hall' x
  simp only [List.count_append] at hpart hx hx' ⊢
  omega

namespace Store

variable {store : Store} {referent : Referent} {change : Referent → Referent} {name : String}

/-- The links of one referent and those of all others are all links. -/
theorem linked_perm (hnodup : store.names.Nodup) (hmem : referent ∈ store.referents) :
    (referent.links ++ (store.removeReferent referent.name).linked).Perm store.linked := by
  have hperm := (perm_cons_filter_key hnodup hmem).flatMap_right Referent.links
  rwa [List.flatMap_cons] at hperm

/-- A referent that changes without changing its name changes only its own links. -/
theorem linked_updateReferent_perm (hnodup : store.names.Nodup) (hmem : referent ∈ store.referents)
    (hname : ∀ other, (change other).name = other.name) :
    ((change referent).links ++ (store.removeReferent referent.name).linked).Perm
      (store.updateReferent referent.name change).linked := by
  have hnames := @names_updateReferent store referent.name change hname
  have hchanged : change referent ∈ (store.updateReferent referent.name change).referents :=
    List.mem_map.mpr ⟨referent, hmem, by simp⟩
  have hperm := linked_perm (hnames ▸ hnodup) hchanged
  have hremoved : ((store.updateReferent referent.name change).removeReferent
      (change referent).name).linked = (store.removeReferent referent.name).linked := by
    rw [linked, removeReferent, updateReferent, hname, linked, removeReferent]
    dsimp only
    rw [List.filter_map]
    have hkeep : ((fun other : Referent => other.name != referent.name) ∘ fun other =>
        if other.name == referent.name then change other else other) =
        fun other => other.name != referent.name := by
      funext other
      by_cases hother : other.name = referent.name
      · simp [hother, hname]
      · simp [hother]
    rw [hkeep, List.flatMap_map]
    refine List.flatMap_congr fun other hother => ?_
    have hne : other.name ≠ referent.name := by simpa using (List.mem_filter.mp hother).2
    simp [hne]
  rwa [hremoved] at hperm

/-- A referent that changes without changing its name is found changed. -/
theorem referent?_updateReferent {other : String}
    (hname : ∀ referent, (change referent).name = referent.name) :
    (store.updateReferent name change).referent? other =
      (store.referent? other).map fun referent =>
        if referent.name == name then change referent else referent := by
  apply find?_key_map
  intro referent
  split <;> simp [hname]

/-- A referent that changes without changing its name has the links that it changes to. -/
theorem linksOf_updateReferent_self (hname : ∀ referent, (change referent).name = referent.name)
    (hfound : store.referent? name = some referent) :
    (store.updateReferent name change).linksOf name = (change referent).links := by
  have hsame : referent.name = name := by simpa using List.find?_some hfound
  simp [linksOf, referent?_updateReferent hname, hfound, hsame]

/-- A referent that changes without changing its name leaves the links of all others. -/
theorem linksOf_updateReferent_of_ne {other : String}
    (hname : ∀ referent, (change referent).name = referent.name) (hne : other ≠ name) :
    (store.updateReferent name change).linksOf other = store.linksOf other := by
  rw [linksOf, referent?_updateReferent hname, linksOf]
  cases hfound : store.referent? other with
  | none => rfl
  | some referent =>
    have hother : referent.name = other := by simpa using List.find?_some hfound
    have hdiffer : referent.name ≠ name := hother ▸ hne
    simp [hdiffer]

/-- A referent that changes without changing its name and its links leaves all links. -/
theorem linksOf_updateReferent (hname : ∀ referent, (change referent).name = referent.name)
    (hlinks : ∀ referent, (change referent).links = referent.links) (other : String) :
    (store.updateReferent name change).linksOf other = store.linksOf other := by
  have howners : (store.updateReferent name change).owners = store.owners := by
    apply map_key_map
    intro referent
    split <;> simp [hname, hlinks]
  rw [linksOf_eq_owners, howners, linksOf_eq_owners]

/-- A referent that comes into being leaves all others. -/
theorem referent?_addReferent_of_ne {address : Address} {value : Int64} {other : String}
    (hne : other ≠ name) :
    (store.addReferent name address value).referent? other = store.referent? other := by
  have hdiffer : (name == other) = false := by simpa using Ne.symm hne
  rw [referent?, addReferent, List.find?_append, referent?]
  cases store.referents.find? fun referent => referent.name == other <;> simp [hdiffer]

/-- A referent that goes away leaves all others. -/
theorem referent?_removeReferent_of_ne {other : String} (hne : other ≠ name) :
    (store.removeReferent name).referent? other = store.referent? other := by
  rw [referent?, removeReferent, List.find?_filter, referent?]
  congr 1
  funext referent
  by_cases hother : referent.name = other
  · simp [hother, hne]
  · simp [hother]

/-- A referent that comes into being leaves the links of all others. -/
theorem linksOf_addReferent_of_ne {address : Address} {value : Int64} {other : String}
    (hne : other ≠ name) :
    (store.addReferent name address value).linksOf other = store.linksOf other := by
  rw [linksOf, referent?_addReferent_of_ne hne, linksOf]

/-- A referent that goes away leaves the links of all others. -/
theorem linksOf_removeReferent_of_ne {other : String} (hne : other ≠ name) :
    (store.removeReferent name).linksOf other = store.linksOf other := by
  rw [linksOf, referent?_removeReferent_of_ne hne, linksOf]

end Store

/-- What can keep handles between commands. -/
inductive Keeper where
  /-- A name keeps the handle that it stands for. -/
  | name (name : String)
  /-- A set keeps its members. -/
  | set (scheme : Scheme)
  /-- A referent keeps its links. -/
  | referent (name : String)
deriving DecidableEq

namespace Session

/-- The handles that are kept by one keeper. -/
def keptBy (session : Session) : Keeper → List Serial
  | .name name => (session.serial? name).toList
  | .set scheme => session.members scheme
  | .referent name => session.store.linksOf name

/-- The handles that are kept under names and in sets. -/
def placed (session : Session) : List Serial :=
  session.names.map Prod.snd ++ session.rawSet ++ session.packedSet

/-- The handles that are kept anywhere. -/
def kept (session : Session) : List Serial :=
  session.placed ++ session.store.linked

/-- A session in which every handle that exists is kept in one place, except for some loose ones. -/
structure Holding (config : Config) (loose : List Serial) (session : Session) : Prop where
  /-- The store is consistent. -/
  consistent : session.store.Consistent config
  /-- Every handle that exists is loose or kept, and only once. -/
  kept_perm : (loose ++ session.kept).Perm session.store.serials
  /-- No name stands for two handles. -/
  nodup_names : (session.names.map Prod.fst).Nodup
  /-- Every referent that exists has been created in the session. -/
  created_mem : ∀ name ∈ session.store.names, name ∈ session.created

/-- A session between commands: no handle is loose. -/
abbrev Sound (config : Config) (session : Session) : Prop :=
  session.Holding config []

variable {config : Config} {session : Session} {loose gone new : List Serial} {s old : Serial}
  {name other : String} {after : Store} {handle : Handle} {scheme : Scheme} {referent : Referent}

/-! ## Names -/

/-- A handle under a name is found under its serial number. -/
theorem handle?_eq_some (h : session.handle? name = some handle) :
    session.serial? name = some handle.serial ∧
      session.store.handle? handle.serial = some handle := by
  obtain ⟨serial, hserial, hfound⟩ := Option.bind_eq_some_iff.mp h
  obtain rfl := Store.serial_of_handle? hfound
  exact ⟨hserial, hfound⟩

/-- A handle that is found under the serial number for which a name stands is the one under it. -/
theorem handle?_of_serial? (hserial : session.serial? name = some s)
    (hstored : session.store.handle? s = some handle) : session.handle? name = some handle := by
  rw [handle?, hserial, Option.bind_some, hstored]

/-- A handle under a name is kept. -/
theorem mem_kept_of_serial? (h : session.serial? name = some s) : s ∈ session.kept := by
  obtain ⟨entry, hfound, rfl⟩ := Option.map_eq_some_iff.mp h
  have hmem := List.mem_map_of_mem (f := Prod.snd) (List.mem_of_find?_eq_some hfound)
  simp only [kept, placed, List.append_assoc]
  exact List.mem_append_left _ hmem

/-- What is done to the store is no matter of names. -/
@[simp] theorem serial?_withStore :
    ({ session with store := after } : Session).serial? name = session.serial? name := rfl

/-- A name that is freed stands for nothing, and all others stand for what they stood for. -/
@[simp] theorem serial?_freeName :
    (session.freeName name).serial? other =
      if other = name then none else session.serial? other := by
  rw [serial?, freeName, List.find?_filter, serial?]
  by_cases hother : other = name
  · rw [if_pos hother, Option.map_eq_none_iff, List.find?_eq_none]
    rintro ⟨found, serial⟩ _
    simp [hother]
  · rw [if_neg hother]
    congr 2
    funext entry
    by_cases hentry : entry.1 = other
    · simp [hentry, hother]
    · simp [hentry]

/-- A name stands for the handle that it is bound to, and all others for what they stood for. -/
@[simp] theorem serial?_bindName :
    (session.bindName name s).serial? other =
      if other = name then some s else session.serial? other := by
  have hfree := @serial?_freeName session name other
  rw [serial?] at hfree
  rw [serial?, bindName, List.find?_append]
  by_cases hother : other = name
  · rw [if_pos hother, Option.map_eq_none_iff] at hfree
    rw [hfree, hother]
    simp
  · rw [if_neg hother] at hfree
    have hne : (name == other) = false := by simpa using Ne.symm hother
    simp [hother, hne, ← hfree]

/-- A name without a handle can be freed without effect. -/
theorem freeName_of_serial?_eq_none (h : session.serial? name = none) :
    session.freeName name = session := by
  have hkeep : session.names.filter (fun entry => entry.1 != name) = session.names := by
    rw [serial?, Option.map_eq_none_iff, List.find?_eq_none] at h
    exact List.filter_eq_self.mpr fun entry hentry => by simpa using h entry hentry
  rw [freeName, hkeep]

/-- The members of the set for a scheme once it has been changed. -/
@[simp] theorem members_setMembers {members : List Serial} :
    (session.setMembers members scheme).members scheme = members := by
  cases scheme <;> rfl

/-- A set that is given its own members stays. -/
@[simp] theorem setMembers_members :
    session.setMembers (session.members scheme) scheme = session := by
  cases scheme <;> rfl

@[simp] theorem store_setMembers {members : List Serial} :
    (session.setMembers members scheme).store = session.store := by
  cases scheme <;> rfl

@[simp] theorem names_setMembers {members : List Serial} :
    (session.setMembers members scheme).names = session.names := by
  cases scheme <;> rfl

/-- A set that changes leaves all names as they were. -/
@[simp] theorem serial?_setMembers {members : List Serial} {name : String} :
    (session.setMembers members scheme).serial? name = session.serial? name := by
  simp only [serial?, names_setMembers]

@[simp] theorem created_setMembers {members : List Serial} :
    (session.setMembers members scheme).created = session.created := by
  cases scheme <;> rfl

/-- The members of one set and all other handles that are kept. -/
theorem kept_setMembers_perm {members : List Serial} :
    (session.setMembers members scheme).kept.Perm
      (members ++ (session.setMembers [] scheme).kept) := by
  cases scheme with
  | raw =>
    simp only [kept, placed, setMembers, List.append_nil, List.append_assoc]
    exact List.perm_append_comm_assoc _ _ _
  | packed =>
    simp only [kept, placed, setMembers, List.append_nil, List.append_assoc]
    have hcomm := List.perm_append_comm_assoc session.rawSet members session.store.linked
    exact (hcomm.append_left _).trans (List.perm_append_comm_assoc _ _ _)

/-! ## What each keeper keeps -/

/-- What happens to the store concerns only the links of referents. -/
theorem keptBy_withStore {keeper : Keeper} {created : List String}
    (hlinks : ∀ name, keeper = .referent name → after.linksOf name = session.store.linksOf name) :
    ({ session with store := after, created := created } : Session).keptBy keeper =
      session.keptBy keeper := by
  cases keeper with
  | name name => rfl
  | set scheme => cases scheme <;> rfl
  | referent name => exact hlinks name rfl

/-- A name that is freed concerns no other keeper. -/
theorem keptBy_freeName {keeper : Keeper} (hne : keeper ≠ .name name) :
    (session.freeName name).keptBy keeper = session.keptBy keeper := by
  cases keeper with
  | name other =>
    have hother : other ≠ name := fun heq => hne (heq ▸ rfl)
    simp only [keptBy, serial?_freeName, if_neg hother]
  | set scheme => cases scheme <;> rfl
  | referent other => rfl

/-- A name that is bound concerns no other keeper. -/
theorem keptBy_bindName {keeper : Keeper} (hne : keeper ≠ .name name) :
    (session.bindName name s).keptBy keeper = session.keptBy keeper := by
  cases keeper with
  | name other =>
    have hother : other ≠ name := fun heq => hne (heq ▸ rfl)
    simp only [keptBy, serial?_bindName, if_neg hother]
  | set scheme => cases scheme <;> rfl
  | referent other => rfl

/-- A set that changes concerns no other keeper. -/
theorem keptBy_setMembers {keeper : Keeper} {members : List Serial} (hne : keeper ≠ .set scheme) :
    (session.setMembers members scheme).keptBy keeper = session.keptBy keeper := by
  cases keeper with
  | name other => simp only [keptBy, serial?_setMembers]
  | set other => cases scheme <;> cases other <;> first | rfl | exact absurd rfl hne
  | referent other => simp only [keptBy, store_setMembers]

namespace Holding

/-- No handle is kept in two places. -/
theorem nodup_kept (h : session.Holding config loose) : (loose ++ session.kept).Nodup :=
  h.kept_perm.nodup_iff.mpr h.consistent.nodup_serials

/-- Two names stand for two handles. -/
theorem serial?_ne (h : session.Holding config loose) (hname : session.serial? name = some s)
    (hother : session.serial? other = some old) (hne : name ≠ other) : s ≠ old := by
  obtain ⟨first, hfirst, rfl⟩ := Option.map_eq_some_iff.mp hname
  obtain ⟨second, hsecond, rfl⟩ := Option.map_eq_some_iff.mp hother
  have hnodup := (List.nodup_append.mp (List.nodup_append.mp h.nodup_kept).2.1).1
  rw [placed, List.append_assoc] at hnodup
  intro hserial
  have hsame := List.inj_on_of_nodup_map (List.nodup_append.mp hnodup).1
    (List.mem_of_find?_eq_some hfirst) (List.mem_of_find?_eq_some hsecond) hserial
  have hfirstName : first.1 = name := by simpa using List.find?_some hfirst
  have hsecondName : second.1 = other := by simpa using List.find?_some hsecond
  exact hne (hfirstName.symm.trans (hsame ▸ hsecondName))

/-- The order of the loose handles does not matter. -/
theorem perm (h : session.Holding config gone) (hperm : gone.Perm new) :
    session.Holding config new :=
  ⟨h.consistent, (hperm.symm.append_right _).trans h.kept_perm, h.nodup_names, h.created_mem⟩

/-- A passage takes loose handles away and brings loose handles. -/
theorem passage (h : session.Holding config (gone ++ loose))
    (hpassage : Store.Passage config gone new session.store after) :
    ({ session with store := after } : Session).Holding config (new ++ loose) where
  consistent := h.consistent.course hpassage.course
  kept_perm := by
    have hkept : ({ session with store := after } : Session).kept = session.kept := by
      simp only [kept, placed, hpassage.linked_eq]
    have hbefore := h.kept_perm.append_left new
    have hboth := hbefore.trans hpassage.serials_perm
    rw [List.append_assoc] at hboth
    have hcomm := (List.perm_append_comm_assoc gone new (loose ++ session.kept)).trans hboth
    rw [hkept, List.append_assoc]
    exact (List.perm_append_left_iff gone).mp hcomm
  nodup_names := h.nodup_names
  created_mem := by
    rw [hpassage.names_eq]
    exact h.created_mem

/-- A handle that stood under a name is loose once the name is freed. -/
theorem freeName (h : session.Holding config loose) (hserial : session.serial? name = some s) :
    (session.freeName name).Holding config (s :: loose) where
  consistent := h.consistent
  kept_perm := by
    obtain ⟨entry, hfound, rfl⟩ := Option.map_eq_some_iff.mp hserial
    have hname : entry.1 = name := by simpa using List.find?_some hfound
    subst hname
    have hnames := (perm_cons_filter_key h.nodup_names
      (List.mem_of_find?_eq_some hfound)).map Prod.snd
    have hkept : (entry.2 :: (session.freeName entry.1).kept).Perm session.kept := by
      simp only [kept, placed, List.append_assoc]
      exact hnames.append_right _
    exact (List.perm_middle.symm.trans (hkept.append_left loose)).trans h.kept_perm
  nodup_names := h.nodup_names.sublist (List.filter_sublist.map Prod.fst)
  created_mem := h.created_mem

/-- A loose handle can be kept under a name that stands for nothing. -/
theorem bindFresh (h : session.Holding config (s :: loose))
    (hfresh : session.serial? name = none) : (session.bindName name s).Holding config loose where
  consistent := h.consistent
  kept_perm := by
    have hkept : (session.bindName name s).kept.Perm (s :: session.kept) := by
      simp only [bindName, freeName_of_serial?_eq_none hfresh, kept, placed, List.map_append,
        List.map_singleton, List.append_assoc, List.singleton_append]
      exact List.perm_middle
    exact ((hkept.append_left loose).trans List.perm_middle).trans h.kept_perm
  nodup_names := by
    rw [bindName, freeName_of_serial?_eq_none hfresh, List.map_append, List.map_singleton,
      ← List.concat_eq_append, List.nodup_concat]
    refine ⟨fun hmem => ?_, h.nodup_names⟩
    obtain ⟨entry, hentry, hname⟩ := List.mem_map.mp hmem
    rw [serial?, Option.map_eq_none_iff, List.find?_eq_none] at hfresh
    exact hfresh entry hentry (by simpa using hname)
  created_mem := h.created_mem

/-- A handle that is kept under a name makes the one loose that was kept there before. -/
theorem bindName (h : session.Holding config (s :: loose))
    (hold : session.serial? name = some old) :
    (session.bindName name s).Holding config (old :: loose) := by
  have hfree := h.freeName hold
  have hswap : (session.freeName name).Holding config (s :: old :: loose) :=
    hfree.perm (List.Perm.swap _ _ _)
  have hfresh : (session.freeName name).serial? name = none := by simp
  have hbound := hswap.bindFresh hfresh
  have htwice : (session.freeName name).bindName name s = session.bindName name s := by
    rw [Session.bindName, freeName_of_serial?_eq_none hfresh]
    rfl
  rwa [htwice] at hbound

/-- Loose handles and members of a set can change places. -/
theorem setMembers {members : List Serial} (h : session.Holding config (gone ++ loose))
    (hmembers : (new ++ members).Perm (gone ++ session.members scheme)) :
    (session.setMembers members scheme).Holding config (new ++ loose) where
  consistent := by simpa using h.consistent
  kept_perm := by
    have hkept := @kept_setMembers_perm session scheme (session.members scheme)
    rw [setMembers_members] at hkept
    rw [store_setMembers]
    exact (perm_exchange hmembers hkept kept_setMembers_perm).trans h.kept_perm
  nodup_names := by simpa using h.nodup_names
  created_mem := by simpa using h.created_mem

/-- No set has a member twice. -/
theorem nodup_members (h : session.Holding config loose) : (session.members scheme).Nodup := by
  have hperm := @kept_setMembers_perm session scheme (session.members scheme)
  rw [setMembers_members] at hperm
  have hkept := (List.nodup_append.mp h.nodup_kept).2.1
  exact (List.nodup_append.mp (hperm.nodup_iff.mp hkept)).1

/-- Loose handles and links of a referent can change places. -/
theorem updateLinks {change : Referent → Referent} (h : session.Holding config (gone ++ loose))
    (hmem : referent ∈ session.store.referents) (hchange : Store.Unobtrusive change)
    (hlinks : (new ++ (change referent).links).Perm (gone ++ referent.links)) :
    ({ session with store := session.store.updateReferent referent.name change } : Session).Holding
      config (new ++ loose) where
  consistent := h.consistent.updateReferent hchange
  kept_perm := by
    have hnodup := h.consistent.nodup_names
    have hbefore := (Store.linked_perm hnodup hmem).symm.append_left session.placed
    have hafter := (Store.linked_updateReferent_perm hnodup hmem hchange.name_eq).symm.append_left
      session.placed
    exact (perm_exchange hlinks (hbefore.trans (List.perm_append_comm_assoc _ _ _))
      (hafter.trans (List.perm_append_comm_assoc _ _ _))).trans h.kept_perm
  nodup_names := h.nodup_names
  created_mem := by
    rw [Store.names_updateReferent hchange.name_eq]
    exact h.created_mem

/-- A referent that is created keeps all handles where they are. -/
theorem addReferent {address : Address} {value : Int64} (h : session.Holding config loose)
    (hname : name ∉ session.created) (hfree : address ∉ session.store.sites)
    (hsite : address.isSite = true) :
    ({ session with
      store := session.store.addReferent name address value
      created := session.created ++ [name] } : Session).Holding config loose where
  consistent := h.consistent.addReferent (fun hmem => hname (h.created_mem name hmem)) hfree hsite
  kept_perm := by
    have hlinked :
        (session.store.addReferent name address value).linked = session.store.linked := by
      simp [Store.linked, Store.addReferent]
    simp only [kept, hlinked]
    exact h.kept_perm
  nodup_names := h.nodup_names
  created_mem := by
    intro found hmem
    rw [Store.names, Store.addReferent, List.map_append, List.mem_append] at hmem
    rw [List.mem_append]
    exact hmem.imp (h.created_mem found) (by simp)

/-- The links of a referent can be released. -/
theorem releasedLinks (h : session.Holding config loose)
    (hmem : referent ∈ session.store.referents) :
    Store.Passage config referent.links [] session.store
      (session.store.releasedAll config referent.links) := by
  have hlinks := Store.linked_perm h.consistent.nodup_names hmem
  have hlinked := (List.nodup_append.mp (List.nodup_append.mp h.nodup_kept).2.1).2.1
  have hnodup := (List.nodup_append.mp (hlinks.nodup_iff.mpr hlinked)).1
  refine .releasedAll h.consistent hnodup fun serial hlink => h.kept_perm.mem_iff.mp ?_
  have hmem := hlinks.mem_iff.mp (List.mem_append_left _ hlink)
  exact List.mem_append_right _ (List.mem_append_right _ hmem)

/-- A referent that is destroyed takes its links away. -/
theorem destroyed (h : session.Holding config loose) (hmem : referent ∈ session.store.referents)
    (hchecked : (session.store.checkpoint config referent).violationOf? referent.name = none) :
    ({ session with store := session.store.destroyed config referent } : Session).Holding config
      loose where
  consistent := h.consistent.course (.destroyed h.consistent hmem hchecked)
  kept_perm := by
    have hreleased := h.releasedLinks hmem
    obtain ⟨after, hafter, hname, -, hlinks⟩ :=
      @Store.exists_mem_releasedAll config _ _ referent.links hmem
    have hrest := Store.linked_perm (h.consistent.course hreleased.course).nodup_names hafter
    rw [hname, hlinks, hreleased.linked_eq] at hrest
    have hserials := hreleased.serials_perm
    have hkept := h.kept_perm
    rw [List.nil_append] at hserials
    simp only [kept, ← List.append_assoc] at hkept ⊢
    have hall := ((hrest.append_left (loose ++ session.placed)).trans hkept).trans hserials
    exact (List.perm_append_left_iff referent.links).mp
      ((List.perm_append_comm_assoc _ _ _).trans hall)
  nodup_names := h.nodup_names
  created_mem := by
    intro found hfound
    refine h.created_mem found ?_
    rw [← (h.releasedLinks hmem).names_eq]
    exact (List.filter_sublist.map Referent.name).subset hfound

end Holding

end Session

end CountedHandles
