import CountedHandles.Proofs.Exposure

/-!
# Transfers

A value can be passed from a handle to a new one, or to another pointer, without its referent being
told to count. This file shows that it could as well be copied and then released: the same handles
hold the same values in the end, and every referent counts and lists the same handles.
-/

namespace CountedHandles

/-- Two referents that differ at most in how they entered the handles that hold them. -/
structure Referent.Alike (referent other : Referent) : Prop where
  /-- They are the same apart from the handles that hold them. -/
  bare_eq : other.bare = referent.bare
  /-- The counts are the same. -/
  count_eq : other.count = referent.count
  /-- The same handles are registered. -/
  contains_eq : ∀ s, other.roster.contains s = referent.roster.contains s

/-- Two stores in which the same handles hold the same, and in which referents differ at most in how
they entered the handles that hold them. -/
structure Store.Alike (store other : Store) : Prop where
  /-- The handles are the same and hold the same. -/
  handle?_eq : ∀ s, other.handle? s = store.handle? s
  /-- The referents count and list the same handles. -/
  referents : List.Forall₂ Referent.Alike store.referents other.referents

/-- Two operations on a store that come to the same: both succeed with the same result and leave
stores that are alike. -/
def Store.ComesToSame (store : Store) (operation other : Operation α) : Prop :=
  ∃ result after after', operation store = .ok result after ∧ other store = .ok result after' ∧
    after.Alike after'

namespace Handle

open Operation

/-- Copies a pointer and empties the original. -/
def copyOut (config : Config) (source : Handle) : Operation Serial := do
  let copied ← copy config source
  clear config source
  return copied

/-- Makes a pointer hold what another one holds and empties that one. -/
def assignOut (config : Config) (handle source : Handle) : Operation Unit := do
  assignCopy config handle source
  clear config source

/-- Creates a reference to a referent and empties a pointer. -/
def referOut (config : Config) (source : Handle) (referent : Referent) : Operation Serial := do
  let held ← ofAddress config .reference source.scheme referent.address
  clear config source
  return held

/-- Copies a reference to a pointer and drops the reference. -/
def pointOut (config : Config) (source : Handle) : Operation Serial := do
  let copied ← copyAs config .pointer source
  release config source.serial
  return copied

end Handle

namespace Store

variable {config : Config} {store between after other : Store} {handle source : Handle}
  {s : Serial} {address : Address} {form : Form} {slot : Slot} {provenance : Provenance}
  {change : Reassignment} {found found' : Serial → Option Handle}

/-- A handle holds an address if it is found with that address. -/
theorem holds_iff_handle? (hnodup : store.serials.Nodup) :
    store.Holds s address ↔
      ∃ handle, store.handle? s = some handle ∧ handle.address = address := by
  simp only [Holds, handle?_eq_some_iff hnodup, and_assoc]

/-- As many handles hold an address where the same handles do. -/
theorem length_holders_congr (hnodup : store.serials.Nodup) (hother : other.serials.Nodup)
    (hholds : ∀ s, other.Holds s address ↔ store.Holds s address) :
    (other.holders address).length = (store.holders address).length := by
  -- The handles may be listed in another order, so the serial numbers are compared as a set.
  have hserials {store : Store} (hnodup : store.serials.Nodup) :
      ((store.holders address).map Handle.serial).Nodup :=
    hnodup.sublist (List.filter_sublist.map Handle.serial)
  have hperm : ((other.holders address).map Handle.serial).Perm
      ((store.holders address).map Handle.serial) := by
    refine (List.perm_ext_iff_of_nodup (hserials hother) (hserials hnodup)).mpr fun s => ?_
    rw [mem_map_serial_holders, mem_map_serial_holders, hholds]
  simpa using hperm.length_eq

/-- A store has come to hold certain handles, which are found by their serial numbers, while nothing
else has changed about its referents than which handles hold them. -/
structure Becomes (config : Config) (store : Store) (found : Serial → Option Handle)
    (after : Store) : Prop where
  /-- Every referent knows which handles hold it. -/
  consistent : after.Consistent config
  /-- The referents are as before apart from that. -/
  ground_eq : after.referents.map Referent.bare = store.referents.map Referent.bare
  /-- These handles are found. -/
  handle?_eq : after.handle? = found

namespace Becomes

/-- Stores that have come to hold the same handles are alike. -/
theorem alike (h : store.Becomes config found after) (hother : store.Becomes config found other) :
    after.Alike other := by
  have hhandles : other.handle? = after.handle? := hother.handle?_eq.trans h.handle?_eq.symm
  have hholds (s : Serial) (address : Address) :
      other.Holds s address ↔ after.Holds s address := by
    rw [holds_iff_handle? hother.consistent.nodup_serials,
      holds_iff_handle? h.consistent.nodup_serials, hhandles]
  refine ⟨fun s => congrFun hhandles s, forall₂_of_map_eq
    (hother.ground_eq.trans h.ground_eq.symm) fun referent hmem referent' hmem' hbare => ?_⟩
  have haddress := Referent.address_of_bare hbare
  refine ⟨hbare, ?_, fun s => ?_⟩
  · rw [(hother.consistent.reflects referent' hmem').count_eq,
      (h.consistent.reflects referent hmem).count_eq, haddress]
    exact length_holders_congr h.consistent.nodup_serials hother.consistent.nodup_serials
      fun s => hholds s _
  · rw [Bool.eq_iff_iff, (hother.consistent.reflects referent' hmem').contains_iff,
      (h.consistent.reflects referent hmem).contains_iff, haddress, hholds]

/-- What becomes of a store in two steps. -/
theorem trans (h : store.Becomes config found between)
    (hnext : between.Becomes config found' after) : store.Becomes config found' after :=
  ⟨hnext.consistent, hnext.ground_eq.trans h.ground_eq, hnext.handle?_eq⟩

variable (h : store.Consistent config)

include h

/-- A store has become one with a new handle. -/
theorem created (hsettled : (store.nextHandle form slot).Settled store)
    (hprovenance : provenance = .created ∨
      ∃ source ∈ store.handles, source.slot = slot ∧ provenance = .copied source.serial) :
    store.Becomes config
      (Function.update store.handle? store.nextSerial (some (store.nextHandle form slot)))
      (store.created config form slot provenance) where
  consistent := (Act.create hsettled hprovenance).consistent h
  ground_eq := ground_tell
  handle?_eq := by
    funext s
    by_cases hnew : s = store.nextSerial
    · rw [hnew, Function.update_self, handle?_created_nextSerial h.toWellFormed]
    · rw [Function.update_of_ne hnew, Store.created, handle?_tell, handle?_addHandle_of_ne hnew]

/-- A store has become one without a handle. -/
theorem released : store.Becomes config (Function.update store.handle? s none)
    (store.released config s) where
  consistent := h.released s
  ground_eq := ground_tell
  handle?_eq := by
    funext other
    rw [handle?_eq_map_standing?, standing?_released]
    by_cases hgone : other = s
    · rw [if_pos hgone, hgone, Function.update_self, Option.map_none]
    · rw [if_neg hgone, Function.update_of_ne hgone, handle?_eq_map_standing?]

/-- A store has become one in which a handle has a new value and the giver, if there is one, is
empty. -/
theorem reassigned (hchange : store.Reassigns config change after) :
    store.Becomes config (fun s => (store.handle? s).map change.settle) after := by
  have hsettles := hchange.settles h
  obtain ⟨between, hacquires, rfl⟩ := hchange.exists_acquires h
  exact ⟨hacquires.consistent_reassigned h, hacquires.ground_reassigned h,
    funext hsettles.handle?_eq⟩

/-- A store has become one in which a handle has a new value. -/
theorem renewed (hfound : store.handle? handle.serial = some handle)
    (hscheme : slot.scheme = handle.scheme)
    (hsettled : (store.nextHandle handle.form slot).Settled store)
    (hprovenance : provenance = .created ∨
      ∃ source ∈ store.handles, source.slot = slot ∧ provenance = .copied source.serial) :
    store.Becomes config
      (Function.update store.handle? handle.serial (some { handle with slot := slot }))
      (store.renewed config handle.serial handle.form slot provenance) := by
  have hbecomes := reassigned h (.renew hfound hscheme hsettled hprovenance)
  convert hbecomes using 1
  funext s
  by_cases hserial : s = handle.serial
  · simp [hserial, hfound, Reassignment.settle]
  · rw [Function.update_of_ne hserial]
    cases hother : store.handle? s with
    | none => rfl
    | some other =>
      obtain rfl := serial_of_handle? hother
      simp [Reassignment.settle, hserial]

/-- A store has become one in which a pointer is empty. -/
theorem cleared (hfound : store.handle? handle.serial = some handle)
    (hform : handle.form = .pointer) :
    store.Becomes config
      (Function.update store.handle? handle.serial
        (some { handle with slot := Slot.null handle.scheme }))
      (store.renewed config handle.serial handle.form (Slot.null handle.scheme) .created) :=
  renewed h hfound (Slot.scheme_null _) (hform ▸ settled_null _) (Or.inl rfl)

/-- A store has become one in which a pointer has the value of another one, which is empty. -/
theorem movedTo (hfound : store.handle? handle.serial = some handle)
    (hsource : store.handle? source.serial = some source) (hform : handle.form = .pointer)
    (hsourceForm : source.form = .pointer) (hscheme : handle.scheme = source.scheme)
    (hne : handle.serial ≠ source.serial) :
    store.Becomes config
      (Function.update (Function.update store.handle? handle.serial
        (some { handle with slot := source.slot })) source.serial
        (some { source with slot := Slot.null source.scheme }))
      ((store.movedOut config source.scheme source.serial).reassigned config handle.serial
        store.nextSerial) := by
  have hbecomes := reassigned h (.move hfound hsource hform hsourceForm hscheme hne)
  convert hbecomes using 1
  funext s
  by_cases hgiver : s = source.serial
  · simp [hgiver, hsource, Reassignment.settle, hne.symm]
  rw [Function.update_of_ne hgiver]
  by_cases hserial : s = handle.serial
  · simp [hserial, hfound, Reassignment.settle]
  · rw [Function.update_of_ne hserial]
    cases hother : store.handle? s with
    | none => rfl
    | some other =>
      obtain rfl := serial_of_handle? hother
      simp [Reassignment.settle, hserial, Ne.symm hgiver]

/-- A store has become one in which the value of a pointer is with a new one. -/
theorem movedOut (hfound : store.handle? handle.serial = some handle)
    (hform : handle.form = .pointer) :
    store.Becomes config
      (Function.update (Function.update store.handle? store.nextSerial
        (some (store.nextHandle handle.form handle.slot))) handle.serial
        (some { handle with slot := Slot.null handle.scheme }))
      (store.movedOut config handle.scheme handle.serial) where
  consistent := h.course (Course.movedOut h.toWellFormed hfound hform)
  ground_eq := by
    obtain ⟨sent, hdelivers, -⟩ := @Delivers.movedOut config store handle.scheme handle.serial
    exact hdelivers.ground_eq
  handle?_eq := by
    funext s
    rw [handle?_eq_map_standing?, h.standing?_movedOut hfound]
    by_cases hsource : s = handle.serial
    · rw [if_pos hsource, hsource, Function.update_self]
      rfl
    rw [if_neg hsource, Function.update_of_ne hsource]
    by_cases hnew : s = store.nextSerial
    · rw [if_pos hnew, hnew, Function.update_self, hform]
      rfl
    · rw [if_neg hnew, Function.update_of_ne hnew, handle?_eq_map_standing?]

/-- A store has become one in which a new handle has taken over from another one, which stands in
some way or is gone. -/
theorem takenOver {left? : Option Standing} (hfound : store.handle? handle.serial = some handle)
    (hcensus : after.census = (store.census.put handle.serial left?).create config form handle.slot
      (.moved handle.serial)) (hafter : after.Consistent config) :
    store.Becomes config
      (Function.update (Function.update store.handle? store.nextSerial
        (some (store.nextHandle form handle.slot))) handle.serial
        (left?.map fun standing => ⟨handle.serial, standing.form, standing.slot⟩)) after where
  consistent := hafter
  ground_eq := congrArg Census.ground hcensus
  handle?_eq := by
    funext s
    have hne := h.ne_nextSerial hfound
    rw [handle?_eq_map_standing?, ← standing?_census, hcensus, Census.standing?_create,
      Census.standing?_put]
    by_cases hsource : s = handle.serial
    · rw [hsource, Function.update_self, if_neg (by exact hne), if_pos rfl]
    rw [Function.update_of_ne hsource, if_neg hsource]
    by_cases hnew : s = store.nextSerial
    · rw [hnew, Function.update_self, if_pos (by rfl)]
      rfl
    · rw [Function.update_of_ne hnew, if_neg (by exact hnew), handle?_eq_map_standing?]
      rfl

/-- A store has become one in which the value of a pointer is with a new reference. -/
theorem madeReference (hfound : store.handle? handle.serial = some handle)
    (hform : handle.form = .pointer) (hsite : handle.address ∈ store.sites) :
    store.Becomes config
      (Function.update (Function.update store.handle? store.nextSerial
        (some (store.nextHandle .reference handle.slot))) handle.serial
        (some { handle with slot := Slot.null handle.scheme }))
      (store.madeReference config handle) := by
  have hbecomes := takenOver h hfound (h.census_madeReference hfound hform)
    (h.madeReference hfound hform hsite)
  rwa [Option.map_some, ← hform] at hbecomes

/-- A store has become one in which the value of a reference is with a new pointer. -/
theorem madePointer (hfound : store.handle? handle.serial = some handle)
    (hform : handle.form = .reference) :
    store.Becomes config
      (Function.update (Function.update store.handle? store.nextSerial
        (some (store.nextHandle .pointer handle.slot))) handle.serial none)
      (store.madePointer config handle) :=
  takenOver h hfound h.census_madePointer (h.madePointer hfound hform)

end Becomes

end Store

namespace Handle

open Operation Store

variable {config : Config} {store : Store} {handle source : Handle}
  (h : store.Consistent config) (hsource : store.handle? source.serial = some source)

include h hsource

/-- A value that is moved out could as well be copied out. -/
theorem moveOut_comesToSame (hform : source.form = .pointer) :
    store.ComesToSame (moveOut config source) (copyOut config source) := by
  have hcopied := @Becomes.created config store source.form source.slot (.copied source.serial) h
    (h.settled_copy hsource (Or.inl rfl)) (Or.inr ⟨source, mem_of_handle? hsource, rfl, rfl⟩)
  have hstill := @handle?_created config _ _ _ source.form source.slot (.copied source.serial)
    hsource
  have hcleared := Becomes.cleared hcopied.consistent hstill hform
  rw [hcopied.handle?_eq] at hcleared
  refine ⟨_, _, _, run_moveOut h hsource, ?_,
    (Becomes.movedOut h hsource hform).alike (hcopied.trans hcleared)⟩
  unfold copyOut copy
  simp only [run_bind, run_copyAs h, run_clear hcopied.consistent hstill hform, run_pure]

/-- A value that is moved to another pointer could as well be assigned to it and cleared. -/
theorem assignMove_comesToSame (hfound : store.handle? handle.serial = some handle)
    (hform : handle.form = .pointer) (hsourceForm : source.form = .pointer)
    (hscheme : handle.scheme = source.scheme) (hne : handle.serial ≠ source.serial) :
    store.ComesToSame (assignMove config handle source) (assignOut config handle source) := by
  have hforms : source.form = handle.form := hsourceForm.trans hform.symm
  have hassigned := @Becomes.renewed config store handle source.slot (.copied source.serial) h
    hfound hscheme.symm (h.settled_copy hsource (Or.inl hforms.symm))
    (Or.inr ⟨source, mem_of_handle? hsource, rfl, rfl⟩)
  have hstill : (store.renewed config handle.serial handle.form source.slot
      (.copied source.serial)).handle? source.serial = some source := by
    rw [hassigned.handle?_eq, Function.update_of_ne hne.symm, hsource]
  have hcleared := Becomes.cleared hassigned.consistent hstill hsourceForm
  rw [hassigned.handle?_eq] at hcleared
  refine ⟨_, _, _, run_assignMove h hfound hsource hform hsourceForm hne, ?_,
    (Becomes.movedTo h hfound hsource hform hsourceForm hscheme hne).alike
      (hassigned.trans hcleared)⟩
  unfold assignOut
  simp only [run_bind, run_assignCopy h hfound hsource hforms,
    run_clear hassigned.consistent hstill hsourceForm]

/-- A referent that is moved to a reference could as well be given to the reference and released. -/
theorem toReference_comesToSame {referent : Referent} (hform : source.form = .pointer)
    (hmem : referent ∈ store.referents) (haddress : source.address = referent.address) :
    store.ComesToSame (toReference config source) (referOut config source referent) := by
  have hsite : source.address ∈ store.sites := haddress ▸ List.mem_map_of_mem hmem
  obtain ⟨slot, hslot⟩ := Slot.exists_ofAddress_of_isSite (h.isSite _ hsite) source.scheme
  have hsame : slot = source.slot :=
    (Slot.address_inj (Slot.scheme_of_ofAddress hslot)).mp (Slot.address_of_ofAddress hslot)
  subst hsame
  have hheld := @Becomes.created config store .reference source.slot .created h (Or.inr hsite)
    (Or.inl rfl)
  have hstill := @handle?_created config _ _ _ .reference source.slot .created hsource
  have hcleared := Becomes.cleared hheld.consistent hstill hform
  rw [hheld.handle?_eq] at hcleared
  refine ⟨_, _, _, run_toReference h hsource hform hsite, ?_,
    (Becomes.madeReference h hsource hform hsite).alike (hheld.trans hcleared)⟩
  unfold referOut
  rw [← haddress]
  simp only [run_bind, run_ofAddress h hslot, run_clear hheld.consistent hstill hform, run_pure]

/-- A reference that becomes a pointer could as well be copied to one and released. -/
theorem toPointer_comesToSame (hform : source.form = .reference) :
    store.ComesToSame (toPointer config source) (pointOut config source) := by
  have hcopied := @Becomes.created config store .pointer source.slot (.copied source.serial) h
    (h.settled_copy hsource (Or.inr rfl)) (Or.inr ⟨source, mem_of_handle? hsource, rfl, rfl⟩)
  have hreleased := @Becomes.released config _ source.serial hcopied.consistent
  rw [hcopied.handle?_eq] at hreleased
  refine ⟨_, _, _, run_toPointer h hsource, ?_,
    (Becomes.madePointer h hsource hform).alike (hcopied.trans hreleased)⟩
  unfold pointOut
  simp only [run_bind, run_copyAs h, run_release hcopied.consistent, run_pure]

end Handle

end CountedHandles
