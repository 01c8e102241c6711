import CountedHandles.Proofs.Acts
import Mathlib.Logic.Relation

/-!
# The course of a store

All that happens to a store is a course of acts: those of handles, those of referents that come, go
and change what no handle depends on, and records for the log. A property that every act keeps is
therefore kept by whole runs; consistency is the first of them.
-/

namespace CountedHandles.Store

variable {config : Config} {store before after : Store} {referent : Referent} {name : String}
  {address : Address} {value : Int64} {handle : Handle} {serial : Serial}

/-! ## Referents that come and go -/

/-- No handle holds a site at which no referent lies. -/
theorem WellFormed.not_holds_of_free (h : store.WellFormed) (hsite : address.isSite = true)
    (hfree : address ∉ store.sites) : ¬ store.Holds serial address := by
  rintro ⟨handle, hmem, -, rfl⟩
  rcases h.settled handle hmem with ⟨-, hvacant⟩ | hlive
  · rw [Slot.target?_of_isSite hsite] at hvacant
    cases hvacant
  · exact hfree hlive

/-- An address has no holders exactly when no handle holds it. -/
theorem length_holders_eq_zero_iff :
    (store.holders address).length = 0 ↔ ∀ serial, ¬ store.Holds serial address := by
  rw [List.length_eq_zero_iff, holders, List.filter_eq_nil_iff]
  constructor
  · rintro hnone serial ⟨handle, hmem, -, haddress⟩
    exact hnone handle hmem (by simpa using haddress)
  · intro hnone handle hmem haddress
    exact hnone handle.serial ⟨handle, hmem, rfl, by simpa using haddress⟩

/-- A new referent with a name and a site of its own keeps a store well formed. -/
theorem WellFormed.addReferent (h : store.WellFormed) (hname : name ∉ store.names)
    (hfree : address ∉ store.sites) (hsite : address.isSite = true) :
    (store.addReferent name address value).WellFormed where
  nodup_serials := h.nodup_serials
  serial_lt := h.serial_lt
  nodup_names := by
    rw [names, Store.addReferent, List.map_append, List.map_singleton, ← List.concat_eq_append,
      List.nodup_concat]
    exact ⟨hname, h.nodup_names⟩
  nodup_sites := by
    rw [sites, Store.addReferent, List.map_append, List.map_singleton, ← List.concat_eq_append,
      List.nodup_concat]
    exact ⟨hfree, h.nodup_sites⟩
  isSite := by
    intro site hmem
    rw [sites, Store.addReferent, List.map_append, List.mem_append, List.map_singleton,
      List.mem_singleton] at hmem
    rcases hmem with hmem | rfl
    · exact h.isSite site hmem
    · exact hsite
  settled := by
    intro handle hmem
    refine (h.settled handle hmem).imp_right fun hlive => ?_
    rw [sites, Store.addReferent, List.map_append]
    exact List.mem_append_left _ hlive

/-- A new referent at a free site is held by no handle, so it keeps a store consistent. -/
theorem Consistent.addReferent (h : store.Consistent config) (hname : name ∉ store.names)
    (hfree : address ∉ store.sites) (hsite : address.isSite = true) :
    (store.addReferent name address value).Consistent config where
  toWellFormed := h.toWellFormed.addReferent hname hfree hsite
  reflects := by
    intro referent hmem
    rw [Store.addReferent, List.mem_append, List.mem_singleton] at hmem
    rcases hmem with hmem | rfl
    · exact (h.reflects referent hmem).congr rfl fun _ => Iff.rfl
    · have hnone : ∀ serial, ¬ store.Holds serial address := fun _ =>
        h.not_holds_of_free hsite hfree
      constructor
      · exact (length_holders_eq_zero_iff.mpr hnone).symm
      · intro serial
        simp only [Roster.contains_empty, Bool.false_eq_true, false_iff, not_and]
        exact fun _ => hnone serial

/-- A referent that no handle holds can go without harm to a well-formed store. -/
theorem WellFormed.removeReferent (h : store.WellFormed) (hmem : referent ∈ store.referents)
    (hnone : ∀ serial, ¬ store.Holds serial referent.address) :
    (store.removeReferent referent.name).WellFormed where
  nodup_serials := h.nodup_serials
  serial_lt := h.serial_lt
  nodup_names := h.nodup_names.sublist (List.filter_sublist.map Referent.name)
  nodup_sites := h.nodup_sites.sublist (List.filter_sublist.map Referent.address)
  isSite := fun site hsite =>
    h.isSite site ((List.filter_sublist.map Referent.address).subset hsite)
  settled := by
    intro handle hhandle
    refine (h.settled handle hhandle).imp_right fun hlive => ?_
    obtain ⟨other, hother, haddress⟩ := List.mem_map.mp hlive
    have hne : other.name ≠ referent.name := by
      intro hname
      have hsame := List.inj_on_of_nodup_map h.nodup_names hother hmem hname
      exact hnone handle.serial ⟨handle, hhandle, rfl, by rw [← haddress, hsame]⟩
    exact List.mem_map.mpr ⟨other, List.mem_filter.mpr ⟨hother, by simpa using hne⟩, haddress⟩

/-- A referent that counts no handle can go without harm to a consistent store. -/
theorem Consistent.removeReferent (h : store.Consistent config) (hmem : referent ∈ store.referents)
    (hcount : referent.count = 0) :
    (store.removeReferent referent.name).Consistent config where
  toWellFormed := by
    rw [(h.reflects referent hmem).count_eq, length_holders_eq_zero_iff] at hcount
    exact h.toWellFormed.removeReferent hmem hcount
  reflects := by
    intro other hother
    exact (h.reflects other (List.mem_of_mem_filter hother)).congr rfl fun _ => Iff.rfl

/-- A referent that changes without changing its name leaves all names as they were. -/
theorem names_updateReferent (hname : ∀ other, (change other).name = other.name) :
    (store.updateReferent name change).names = store.names := by
  apply map_key_map
  intro other
  split
  · exact hname other
  · rfl

/-- A change of a referent that leaves what handles depend on. -/
structure Unobtrusive (change : Referent → Referent) : Prop where
  /-- The name stays. -/
  name_eq : ∀ referent, (change referent).name = referent.name
  /-- The place stays. -/
  address_eq : ∀ referent, (change referent).address = referent.address
  /-- The count stays. -/
  count_eq : ∀ referent, (change referent).count = referent.count
  /-- The roster stays. -/
  roster_eq : ∀ referent, (change referent).roster = referent.roster

/-- An unobtrusive change of a referent keeps a store consistent. -/
theorem Consistent.updateReferent {change : Referent → Referent} (h : store.Consistent config)
    (hchange : Unobtrusive change) : (store.updateReferent name change).Consistent config where
  toWellFormed := by
    refine h.congr rfl rfl (names_updateReferent hchange.name_eq) ?_
    apply map_key_map
    intro referent
    split
    · exact hchange.address_eq referent
    · rfl
  reflects := by
    intro referent hmem
    obtain ⟨old, hold, rfl⟩ := List.mem_map.mp hmem
    have hreflects := h.reflects old hold
    split
    · constructor
      · rw [hchange.count_eq, hchange.address_eq]
        exact hreflects.count_eq
      · intro serial
        rw [hchange.roster_eq, hchange.address_eq]
        exact hreflects.contains_iff serial
    · exact hreflects.congr rfl fun _ => Iff.rfl

/-! ## Acts and courses -/

/-- One act, from the store before it to the store after it. -/
inductive Act (config : Config) : Store → Store → Prop
  /-- A handle is created, on its own or as a copy of another one. -/
  | create {store : Store} {form : Form} {slot : Slot} {provenance : Provenance}
      (settled : (store.nextHandle form slot).Settled store)
      (provenance_eq : provenance = .created ∨
        ∃ source ∈ store.handles, source.slot = slot ∧ provenance = .copied source.serial) :
      Act config store (store.created config form slot provenance)
  /-- Two handles of one type exchange what they hold. -/
  | swap {store : Store} {a b : Serial} {first second : Handle}
      (found_first : store.handle? a = some first) (found_second : store.handle? b = some second)
      (form_eq : first.form = second.form) (scheme_eq : first.scheme = second.scheme) :
      Act config store (store.swapped config a b)
  /-- A handle is released. -/
  | release {store : Store} (serial : Serial) : Act config store (store.released config serial)
  /-- A pointer gives what it holds to a new reference. -/
  | makeReference {store : Store} {handle : Handle}
      (found : store.handle? handle.serial = some handle) (form_eq : handle.form = .pointer)
      (live : handle.address ∈ store.sites) :
      Act config store (store.madeReference config handle)
  /-- A reference gives what it holds to a new pointer. -/
  | makePointer {store : Store} {handle : Handle}
      (found : store.handle? handle.serial = some handle) (form_eq : handle.form = .reference) :
      Act config store (store.madePointer config handle)
  /-- A record goes to the log. -/
  | record {store : Store} (entry : LogRecord) : Act config store (store.addEvent (.log entry))
  /-- A referent comes into being. -/
  | addReferent {store : Store} {name : String} {address : Address} {value : Int64}
      (new : name ∉ store.names) (free : address ∉ store.sites)
      (isSite : address.isSite = true) :
      Act config store (store.addReferent name address value)
  /-- A referent that no handle holds goes away. -/
  | removeReferent {store : Store} {referent : Referent} (live : referent ∈ store.referents)
      (count_eq : referent.count = 0) : Act config store (store.removeReferent referent.name)
  /-- A referent changes in a way that no handle depends on. -/
  | updateReferent {store : Store} {name : String} {change : Referent → Referent}
      (unobtrusive : Unobtrusive change) :
      Act config store (store.updateReferent name change)

/-- Acts one after the other. -/
abbrev Course (config : Config) : Store → Store → Prop :=
  Relation.ReflTransGen (Act config)

/-- Every act keeps a store consistent. -/
theorem Act.consistent (hact : Act config before after) (h : before.Consistent config) :
    after.Consistent config := by
  cases hact with
  | create settled provenance_eq =>
    refine h.created settled fun source => ?_
    rcases provenance_eq with rfl | ⟨other, -, -, rfl⟩
    · simp
    · simp
  | swap found_first found_second form_eq _ => exact h.swapped found_first found_second form_eq
  | release serial => exact h.released serial
  | makeReference found form_eq live => exact h.madeReference found form_eq live
  | makePointer found form_eq => exact h.madePointer found form_eq
  | record entry =>
    exact ⟨h.addEvent, fun referent hmem => (h.reflects referent hmem).congr rfl fun _ => Iff.rfl⟩
  | addReferent new free isSite => exact h.addReferent new free isSite
  | removeReferent live count_eq => exact h.removeReferent live count_eq
  | updateReferent unobtrusive => exact h.updateReferent unobtrusive

/-- A course of acts keeps a store consistent. -/
theorem Consistent.course (h : before.Consistent config) (hcourse : Course config before after) :
    after.Consistent config := by
  induction hcourse with
  | refl => exact h
  | tail _ hact ih => exact hact.consistent ih

end CountedHandles.Store
