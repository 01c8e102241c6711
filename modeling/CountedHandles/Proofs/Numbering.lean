import CountedHandles.Proofs.Course
import CountedHandles.Proofs.Renewal

/-!
# The numbering of handles

Serial numbers are given out in order and never twice, and a handle keeps its number, its form and
its scheme as long as it exists. The events of a course name every handle that comes into being on
it, those included that are gone by its end.
-/

namespace CountedHandles.Store

variable {config : Config} {store before between after : Store} {first second : Handle}
  {a b s : Serial} {form : Form} {slot : Slot} {provenance : Provenance} {name? : Option String}
  {messages : List Message}

/-- The serial numbers of all handles whose creation is among the events. -/
def born (store : Store) : List Serial :=
  (store.events.filterMap Event.created?).map Handle.serial

/-- Calls create no handle. -/
@[simp] theorem born_tell : (store.tell config name? messages).born = store.born := by
  cases name? with
  | none => rfl
  | some name =>
    induction messages generalizing store with
    | nil => rfl
    | cons message messages ih =>
      have hevents :
          (config.eventsOf ⟨name, message⟩ store.handles).filterMap Event.created? = [] := by
        unfold Config.eventsOf
        split
        · split
          · split <;> rfl
          · rfl
        · rfl
      rw [tell_cons, ih, born, receive, List.filterMap_append, hevents, List.append_nil, born]

/-- A creation is an event. -/
@[simp] theorem born_created :
    (store.created config form slot provenance).born = store.born ++ [store.nextSerial] := by
  rw [created, born_tell, born, addHandle, List.filterMap_append, List.map_append, born]
  rfl

/-- An exchange creates no handle. -/
@[simp] theorem born_swapped : (store.swapped config a b).born = store.born := by
  have hborn : (store.exchangeSlots a b).born = store.born := by
    rw [born, events_exchangeSlots, born]
  simp only [swapped]
  split <;> simp [hborn]

@[simp] theorem nextSerial_swapped :
    (store.swapped config a b).nextSerial = store.nextSerial := by
  simp only [swapped]
  split <;> simp

/-- An act gives out serial numbers in order, and its events tell which. -/
theorem Act.numbered (hact : Act config before after) :
    ∃ count, after.nextSerial = before.nextSerial + count ∧
      after.born = before.born ++ List.range' before.nextSerial count := by
  cases hact with
  | create settled provenance_eq => exact ⟨1, nextSerial_created, born_created⟩
  | swap found_first found_second form_eq scheme_eq =>
    exact ⟨0, nextSerial_swapped, born_swapped.trans (List.append_nil _).symm⟩
  | release serial =>
    refine ⟨0, by simp [released], ?_⟩
    rw [released, born_tell]
    exact (List.append_nil _).symm
  | makeReference found form_eq live =>
    refine ⟨1, nextSerial_created, ?_⟩
    rw [madeReference, born_created, addEvent, born, List.filterMap_append, List.map_append]
    exact congrArg (· ++ _) (List.append_nil _)
  | makePointer found form_eq =>
    refine ⟨1, nextSerial_created, ?_⟩
    rw [madePointer, born_created, addEvent, born, List.filterMap_append, List.map_append]
    exact congrArg (· ++ _) (List.append_nil _)
  | record entry =>
    refine ⟨0, rfl, ?_⟩
    rw [addEvent, born, List.filterMap_append, List.map_append]
    rfl
  | addReferent new free isSite => exact ⟨0, rfl, (List.append_nil _).symm⟩
  | removeReferent live count_eq => exact ⟨0, rfl, (List.append_nil _).symm⟩
  | updateReferent unobtrusive => exact ⟨0, rfl, (List.append_nil _).symm⟩

/-- A course gives out serial numbers in order, and its events tell which. -/
theorem Course.numbered (hcourse : Course config before after) :
    ∃ count, after.nextSerial = before.nextSerial + count ∧
      after.born = before.born ++ List.range' before.nextSerial count := by
  induction hcourse with
  | refl => exact ⟨0, rfl, (List.append_nil _).symm⟩
  | tail _ hact ih =>
    obtain ⟨count, hnext, hborn⟩ := ih
    obtain ⟨more, hlater, hlaterBorn⟩ := hact.numbered
    refine ⟨count + more, by rw [hlater, hnext, Nat.add_assoc], ?_⟩
    rw [hlaterBorn, hborn, hnext, List.append_assoc, List.range'_append_1]

/-- Every handle of a later store that was given out before is of the same form and scheme as the
handle with its number in an earlier store. -/
def Descends (before after : Store) : Prop :=
  ∀ handle ∈ after.handles, handle.serial < before.nextSerial →
    ∃ old ∈ before.handles, old.serial = handle.serial ∧ old.form = handle.form ∧
      old.scheme = handle.scheme

namespace Descends

/-- Handles that stay descend from themselves. -/
theorem of_subset (h : ∀ handle ∈ after.handles, handle.serial < before.nextSerial →
    handle ∈ before.handles) : before.Descends after :=
  fun handle hmem hold => ⟨handle, h handle hmem hold, rfl, rfl, rfl⟩

/-- Descent passes through a store between. -/
theorem trans (hfirst : before.Descends between) (hnext : between.Descends after)
    (hle : before.nextSerial ≤ between.nextSerial) : before.Descends after := by
  intro handle hmem hold
  obtain ⟨middle, hmiddle, hserial, hform, hscheme⟩ :=
    hnext handle hmem (Nat.lt_of_lt_of_le hold hle)
  obtain ⟨old, hmemOld, hserialOld, hformOld, hschemeOld⟩ :=
    hfirst middle hmiddle (hserial ▸ hold)
  exact ⟨old, hmemOld, hserialOld.trans hserial, hformOld.trans hform, hschemeOld.trans hscheme⟩

/-- A content of the same scheme leaves what a handle is. -/
theorem setSlot (hscheme : ∀ handle ∈ store.handles, handle.serial = s →
    handle.scheme = slot.scheme) : store.Descends (store.setSlot s slot) := by
  intro handle hmem _
  rcases mem_setSlot.mp hmem with ⟨hmem, -⟩ | ⟨old, hold, hserial, rfl⟩
  · exact ⟨handle, hmem, rfl, rfl, rfl⟩
  · exact ⟨old, hold, rfl, rfl, hscheme old hold hserial⟩

/-- An exchange between handles of one type leaves what they are. -/
theorem exchangeSlots (h : store.WellFormed) (ha : store.handle? a = some first)
    (hb : store.handle? b = some second) (hscheme : first.scheme = second.scheme) :
    store.Descends (store.exchangeSlots a b) := by
  rw [exchangeSlots_eq ha hb]
  have hfirst : store.Descends (store.setSlot a second.slot) := by
    refine setSlot fun handle hmem hserial => ?_
    rw [(handle?_eq_some_iff h.nodup_serials).mpr ⟨hmem, hserial⟩] at ha
    cases ha
    exact hscheme
  refine hfirst.trans (setSlot fun handle hmem hserial => ?_) (Nat.le_refl _)
  have hnodup : (store.setSlot a second.slot).serials.Nodup := by simpa using h.nodup_serials
  have hfound := (handle?_eq_some_iff hnodup).mpr ⟨hmem, hserial⟩
  rw [handle?_setSlot h.nodup_serials hb] at hfound
  obtain rfl := Option.some.inj hfound
  split
  · exact hscheme.symm
  · exact hscheme.symm

/-- A new handle descends from none. -/
theorem created : store.Descends (store.created config form slot provenance) := by
  refine of_subset fun handle hmem hold => ?_
  rw [Store.created, handles_tell, handles_addHandle, List.mem_append, List.mem_singleton] at hmem
  rcases hmem with hmem | rfl
  · exact hmem
  · exact absurd hold (Nat.lt_irrefl _)

end Descends

/-- Handles keep what they are through every act. -/
theorem Act.descends (hact : Act config before after) (h : before.WellFormed) :
    before.Descends after := by
  cases hact with
  | create settled provenance_eq => exact .created
  | swap found_first found_second form_eq scheme_eq =>
    unfold Descends
    rw [handles_swapped]
    exact Descends.exchangeSlots h found_first found_second scheme_eq
  | release serial =>
    refine .of_subset fun handle hmem _ => ?_
    rw [released, handles_tell] at hmem
    exact List.mem_of_mem_filter hmem
  | makeReference found form_eq live =>
    rename_i handle
    have hemptied : before.Descends
        ((before.setSlot handle.serial (Slot.null handle.scheme)).addEvent
          (.log (.releasing handle.address .reference))) := by
      refine Descends.setSlot fun other hmem hserial => ?_
      rw [(handle?_eq_some_iff h.nodup_serials).mpr ⟨hmem, hserial⟩] at found
      cases found
      exact (Slot.scheme_null _).symm
    exact hemptied.trans .created (Nat.le_refl _)
  | makePointer found form_eq =>
    rename_i handle
    have hgone : before.Descends ((before.removeHandle handle.serial).addEvent
        (.log (.releasing handle.address .pointer))) :=
      .of_subset fun other hmem _ => List.mem_of_mem_filter hmem
    exact hgone.trans .created (Nat.le_refl _)
  | record entry => exact .of_subset fun _ hmem _ => hmem
  | addReferent new free isSite => exact .of_subset fun _ hmem _ => hmem
  | removeReferent live count_eq => exact .of_subset fun _ hmem _ => hmem
  | updateReferent unobtrusive => exact .of_subset fun _ hmem _ => hmem

/-- Handles keep what they are on every course. -/
theorem Consistent.descends (h : before.Consistent config) (hcourse : Course config before after) :
    before.Descends after := by
  induction hcourse with
  | refl => exact .of_subset fun _ hmem _ => hmem
  | tail hcourse hact ih =>
    obtain ⟨count, hnext, -⟩ := Course.numbered hcourse
    exact ih.trans (hact.descends (h.course hcourse).toWellFormed) (hnext ▸ Nat.le_add_right _ _)

end CountedHandles.Store
