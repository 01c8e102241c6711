import CountedHandles.Proofs.Runs
import CountedHandles.Proofs.Standings

/-!
# The sources of entries

An entry of a roster may name another handle, of which the registered one is a copy or from which it
has taken over. Whether or not that handle still exists, it has come into being: no entry ever names
a serial number that is still to be given out. So the numbers to come can be exchanged for others
without a change of what rosters say.
-/

namespace CountedHandles

namespace Provenance

/-- A provenance in which the source has another serial number. -/
def renumber (change : Serial → Serial) : Provenance → Provenance
  | .created => .created
  | .copied source => .copied (change source)
  | .moved source => .moved (change source)

/-- A provenance names no source from a serial number on. -/
def Below (next : Serial) : Provenance → Prop
  | .created => True
  | .copied source => source < next
  | .moved source => source < next

variable {f g : Serial → Serial} {next later : Serial} {provenance : Provenance}

/-- A provenance names no source from a later serial number on, either. -/
theorem Below.mono (h : provenance.Below next) (hle : next ≤ later) : provenance.Below later := by
  cases provenance with
  | created => trivial
  | copied source => exact Nat.lt_of_lt_of_le h hle
  | moved source => exact Nat.lt_of_lt_of_le h hle

/-- Only what becomes of the source matters. -/
theorem renumber_congr (h : provenance.Below next) (hsame : ∀ s < next, f s = g s) :
    provenance.renumber f = provenance.renumber g := by
  cases provenance with
  | created => rfl
  | copied source => exact congrArg copied (hsame source h)
  | moved source => exact congrArg moved (hsame source h)

@[simp] theorem renumber_renumber :
    (provenance.renumber f).renumber g = provenance.renumber (g ∘ f) := by
  cases provenance <;> rfl

@[simp] theorem renumber_id : provenance.renumber id = provenance := by
  cases provenance <;> rfl

end Provenance

namespace Standing

/-- A standing in which the source has another serial number. -/
def renumber (change : Serial → Serial) (standing : Standing) : Standing :=
  { standing with origin? := standing.origin?.map (Provenance.renumber change) }

/-- A standing names no source from a serial number on. -/
def Below (next : Serial) (standing : Standing) : Prop :=
  ∀ origin, standing.origin? = some origin → origin.Below next

variable {f g : Serial → Serial} {next : Serial} {standing : Standing}

/-- Only what becomes of the source matters. -/
theorem renumber_congr (h : standing.Below next) (hsame : ∀ s < next, f s = g s) :
    standing.renumber f = standing.renumber g := by
  rw [renumber, renumber, Standing.mk.injEq]
  exact ⟨rfl, rfl, Option.map_congr fun origin horigin =>
    Provenance.renumber_congr (h origin horigin) hsame⟩

@[simp] theorem renumber_renumber :
    (standing.renumber f).renumber g = standing.renumber (g ∘ f) := by
  simp [renumber, Option.map_map, Function.comp_def]

@[simp] theorem renumber_id : standing.renumber id = standing := by
  have hid : Provenance.renumber id = id := funext fun _ => Provenance.renumber_id
  simp [renumber, hid]

/-- Two exchanges of numbers come to one. -/
theorem renumber_comp : renumber g ∘ renumber f = renumber (g ∘ f) :=
  funext fun _ => renumber_renumber

end Standing

namespace Store

variable {config : Config} {store before after : Store} {name? : Option String}
  {provenance : Provenance} {s : Serial}

/-- No entry names a serial number that is still to be given out. -/
def Dated (store : Store) : Prop :=
  ∀ referent ∈ store.referents, ∀ s origin,
    referent.roster.provenance? s = some origin → origin.Below store.nextSerial

/-- How a handle stands in a store whose entries are dated names no number that is to come. -/
theorem Dated.standing {standing : Standing} (h : store.Dated)
    (hstanding : store.standing? s = some standing) : standing.Below store.nextSerial := by
  intro origin horigin
  rw [(handle?_of_standing? hstanding).2, origin?, Option.bind_eq_some_iff] at horigin
  obtain ⟨name, -, hrecorded⟩ := horigin
  obtain ⟨referent, hfound, hentry⟩ := Option.bind_eq_some_iff.mp hrecorded
  exact h referent (List.mem_of_find?_eq_some hfound) s origin hentry

namespace Dated

/-- Where entries are dated only what becomes of numbers that have been given out matters. -/
theorem map_renumber_congr {f g : Serial → Serial} (h : store.Dated)
    (hsame : ∀ s < store.nextSerial, f s = g s) :
    (store.standing? s).map (Standing.renumber f) =
      (store.standing? s).map (Standing.renumber g) :=
  Option.map_congr fun _ hstanding => Standing.renumber_congr (h.standing hstanding) hsame

/-- Where entries are dated nothing changes if all numbers stay that have been given out. -/
theorem map_renumber_of_fixed {f : Serial → Serial} (h : store.Dated)
    (hfixed : ∀ s < store.nextSerial, f s = s) :
    (store.standing? s).map (Standing.renumber f) = store.standing? s := by
  have hid : Standing.renumber id = id := funext fun _ => Standing.renumber_id
  rw [@map_renumber_congr store s f id h hfixed, hid, Option.map_id, id]

/-- Entries stay dated when each referent has an old roster or an empty one. -/
theorem of_rosters (h : before.Dated) (hle : before.nextSerial ≤ after.nextSerial)
    (hrosters : ∀ referent ∈ after.referents, referent.roster = .empty ∨
      ∃ old ∈ before.referents, referent.roster = old.roster) : after.Dated := by
  intro referent hmem s origin hentry
  rcases hrosters referent hmem with hempty | ⟨old, hold, hroster⟩
  · rw [hempty] at hentry
    cases hentry
  · rw [hroster] at hentry
    exact (h old hold s origin hentry).mono hle

/-- Entries stay dated when no referent changes. -/
theorem of_referents (h : before.Dated) (hle : before.nextSerial ≤ after.nextSerial)
    (hsubset : after.referents ⊆ before.referents) : after.Dated :=
  h.of_rosters hle fun referent hmem => Or.inr ⟨referent, hsubset hmem, rfl⟩

/-- A referent enters a handle with a source that has come into being. -/
theorem told (h : store.Dated) (hbelow : provenance.Below store.nextSerial) :
    (store.tell config name? (provenance.messages s)).Dated := by
  intro referent hmem other origin hentry
  rw [nextSerial_tell]
  rw [referents_tell, List.mem_map] at hmem
  obtain ⟨old, hold, rfl⟩ := hmem
  split at hentry
  · rw [Referent.provenance?_receiveAll_messages] at hentry
    split at hentry
    · split at hentry
      · exact Option.some.inj hentry ▸ hbelow
      split at hentry
      · cases hentry
      · exact h old hold other origin hentry
    · exact h old hold other origin hentry
  · exact h old hold other origin hentry

/-- A handle that is created with a known source keeps entries dated. -/
theorem created {form : Form} {slot : Slot} (h : store.Dated)
    (hbelow : provenance.Below store.nextSerial) :
    (store.created config form slot provenance).Dated := by
  have hadded : (store.addHandle form slot).Dated :=
    h.of_referents (Nat.le_succ _) fun _ => id
  exact hadded.told (hbelow.mono (Nat.le_succ _))

/-- Two handles that have come into being and exchange what they hold keep entries dated. -/
theorem swapped {a b : Serial} (h : store.Dated) (ha : a < store.nextSerial)
    (hb : b < store.nextSerial) : (store.swapped config a b).Dated := by
  have hexchanged : (store.exchangeSlots a b).Dated :=
    h.of_referents (by simp) (by simp [referents_exchangeSlots])
  unfold Store.swapped
  dsimp only
  split
  · exact hexchanged
  · have hfirst := @Dated.told config _ ((store.exchangeSlots a b).target? a) (.moved b) a
      hexchanged (by simpa [Provenance.Below] using hb)
    exact @Dated.told config _ _ (.moved a) b hfirst (by simpa [Provenance.Below] using ha)

/-- A handle that leaves its referent leaves entries dated. -/
theorem released (h : store.Dated) : (store.released config s).Dated := by
  intro referent hmem other origin hentry
  rw [Store.released, nextSerial_tell]
  rw [Store.released, referents_tell, List.mem_map] at hmem
  obtain ⟨old, hold, rfl⟩ := hmem
  refine h old hold other origin ?_
  split at hentry
  · rw [Referent.receiveAll_leave] at hentry
    split at hentry
    · rw [Roster.provenance?_erase] at hentry
      split at hentry
      · cases hentry
      · exact hentry
    · exact hentry
  · exact hentry

end Dated

/-- Every act keeps entries dated. -/
theorem Act.dated (hact : Act config before after) (h : before.WellFormed)
    (hdated : before.Dated) : after.Dated := by
  have hlt {handle : Handle} {s : Serial} (hfound : before.handle? s = some handle) :
      s < before.nextSerial := h.serial_lt s (mem_serials_of_handle? hfound)
  cases hact with
  | create settled provenance_eq =>
    refine hdated.created ?_
    rcases provenance_eq with rfl | ⟨source, hsource, -, rfl⟩
    · trivial
    · exact h.serial_lt _ (List.mem_map_of_mem hsource)
  | swap found_first found_second form_eq scheme_eq =>
    exact hdated.swapped (hlt found_first) (hlt found_second)
  | release serial => exact hdated.released
  | makeReference found form_eq live =>
    refine Dated.created ?_ (hlt found)
    exact hdated.of_referents (Nat.le_refl _) fun _ => id
  | makePointer found form_eq =>
    refine Dated.created ?_ (hlt found)
    exact hdated.of_referents (Nat.le_refl _) fun _ => id
  | record entry =>
    exact hdated.of_referents (Nat.le_refl _) fun _ => id
  | addReferent new free isSite =>
    refine hdated.of_rosters (Nat.le_refl _) fun referent hmem => ?_
    rw [Store.addReferent, List.mem_append, List.mem_singleton] at hmem
    rcases hmem with hmem | rfl
    · exact Or.inr ⟨referent, hmem, rfl⟩
    · exact Or.inl rfl
  | removeReferent live count_eq =>
    exact hdated.of_referents (Nat.le_refl _) (List.filter_subset_self _)
  | updateReferent unobtrusive =>
    refine hdated.of_rosters (Nat.le_refl _) fun referent hmem => ?_
    obtain ⟨old, hold, rfl⟩ := List.mem_map.mp hmem
    refine Or.inr ⟨old, hold, ?_⟩
    split
    · exact unobtrusive.roster_eq old
    · rfl

/-- A course of acts keeps entries dated. -/
theorem Course.dated (hcourse : Course config before after) (h : before.Consistent config)
    (hdated : before.Dated) : after.Dated := by
  induction hcourse with
  | refl => exact hdated
  | tail hcourse hact ih => exact hact.dated (h.course hcourse).toWellFormed ih

end Store

/-- Wherever a program gets that leaves calls to handles, entries are dated. -/
theorem Session.Reached.dated {config : Config} {steps : List Step} {session : Session}
    (h : Reached config steps session) : session.store.Dated := by
  induction h with
  | start => exact fun _ hmem => absurd hmem List.not_mem_nil
  | next reached leaves step_eq ih =>
    have hsound := reached.sound
    exact (hsound.leads_of_step leaves step_eq).course.dated hsound.clearEvents.consistent ih

end CountedHandles
