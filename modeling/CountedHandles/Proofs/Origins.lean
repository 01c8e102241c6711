import CountedHandles.Proofs.Moments
import CountedHandles.Proofs.Numbering
import CountedHandles.Proofs.Passage

/-!
# Origins

A roster that lists its holders also says how each of them came to hold the referent. An act leaves
the entry of a handle alone as long as the handle stays where it is; a handle that comes is entered
as it was created, or as having taken the place of the one that left at the same moment. Along a
course of acts every entry is therefore about the last time that its handle came.
-/

namespace CountedHandles

/-- Of the handles that held an address a single one no longer does. -/
structure Moment.Leaves (before after : Moment) (address : Address) (source : Serial) : Prop where
  /-- It held the address before. -/
  held : before.Holds source address
  /-- It does not hold the address afterwards. -/
  left : ¬ after.Holds source address
  /-- All others stay. -/
  unique : ∀ other, before.Holds other address → ¬ after.Holds other address → other = source

/-- At one of several moments a handle takes an address over from another one, and it holds the
address at all later ones. -/
def Moment.TakesOver (moments : List Moment) (address : Address) (source s : Serial) : Prop :=
  ∃ past before after later, moments = past ++ before :: after :: later ∧
    Leaves before after address source ∧ ¬ before.Holds s address ∧
      ∀ moment ∈ after :: later, moment.Holds s address

/-- More moments at which a handle holds the address change nothing about how it came to it. -/
theorem Moment.TakesOver.append {moments later : List Moment} {address : Address}
    {source s : Serial} (h : TakesOver moments address source s)
    (hlater : ∀ moment ∈ later, moment.Holds s address) :
    TakesOver (moments ++ later) address source s := by
  obtain ⟨past, before, after, rest, rfl, hleaves, hcame, hholds⟩ := h
  refine ⟨past, before, after, rest ++ later, by simp, hleaves, hcame, fun moment hmem => ?_⟩
  rw [← List.cons_append] at hmem
  exact (List.mem_append.mp hmem).elim (hholds moment) (hlater moment)

namespace Store

variable {config : Config} {store before between after : Store} {a b s source : Serial}
  {first second handle : Handle} {form : Form} {slot : Slot} {provenance : Provenance}
  {address : Address} {referent : Referent} {given given' : Serial → Provenance → Prop}
  {old new : Roster}

/-- After an exchange each of the two handles holds what the other held. -/
theorem holds_swapped (h : store.WellFormed) (ha : store.handle? a = some first)
    (hb : store.handle? b = some second) :
    (store.swapped config a b).Holds s address ↔
      if s = b then first.address = address else
        if s = a then second.address = address else store.Holds s address := by
  rw [← holds_exchangeSlots h.nodup_serials ha hb]
  simp only [Holds, handles_swapped]

/-- What becomes of the entry of a handle: it stays if the handle stays, and if the handle comes it
is given or tells which other handle left. -/
def Enters (given : Serial → Provenance → Prop) (before after : Store) (address : Address)
    (old new : Roster) (s : Serial) : Prop :=
  (before.Holds s address ∧ new.provenance? s = old.provenance? s) ∨
    (¬ before.Holds s address ∧ ∃ origin, new.provenance? s = some origin ∧
      (given s origin ∨ ∃ source, origin = .moved source ∧
        Moment.Leaves before.handles after.handles address source))

/-- Every referent accounts for the handles that hold it. -/
def Accounts (given : Serial → Provenance → Prop) (before after : Store) : Prop :=
  ∀ referent ∈ after.referents, ∀ s, after.Holds s referent.address →
    ∃ old ∈ before.referents, old.name = referent.name ∧ old.address = referent.address ∧
      Enters given before after referent.address old.roster referent.roster s

/-- A new handle is entered as it was created. -/
theorem Enters.join (hnew : ¬ before.Holds a address) (hgiven : given a provenance)
    (hholds : after.Holds s address → s = a ∨ before.Holds s address)
    (h : after.Holds s address) :
    Enters given before after address old (old.insert a provenance) s := by
  rcases hholds h with rfl | hheld
  · exact Or.inr ⟨hnew, provenance, by simp [Roster.provenance?_insert], Or.inl hgiven⟩
  · have hne : s ≠ a := fun heq => hnew (heq ▸ hheld)
    exact Or.inl ⟨hheld, by simp [Roster.provenance?_insert, hne]⟩

/-- A handle that takes the place of another is entered as having taken over from it. -/
theorem Enters.move (hnew : ¬ before.Holds a address) (hsource : before.Holds source address)
    (hholds : ∀ s, after.Holds s address ↔ s = a ∨ before.Holds s address ∧ s ≠ source)
    (h : after.Holds s address) :
    Enters given before after address old ((old.erase source).insert a (.moved source)) s := by
  rcases (hholds s).mp h with rfl | ⟨hheld, hstays⟩
  · refine Or.inr ⟨hnew, .moved source, by simp [Roster.provenance?_insert], Or.inr ⟨source, rfl,
      hsource, fun hleft => ?_, fun other hheld hleft => ?_⟩⟩
    · rcases (hholds source).mp hleft with rfl | ⟨-, hself⟩
      · exact hnew hsource
      · exact hself rfl
    · by_contra hstays
      exact hleft ((hholds other).mpr (Or.inr ⟨hheld, hstays⟩))
  · have hne : s ≠ a := fun heq => hnew (heq ▸ hheld)
    exact Or.inl ⟨hheld, by simp [Roster.provenance?_insert, Roster.provenance?_erase, hne, hstays]⟩

namespace Accounts

/-- What is given may be more. -/
theorem imp (h : Accounts given before after)
    (hgiven : ∀ s origin, given s origin → given' s origin) : Accounts given' before after := by
  intro referent hmem s hholds
  obtain ⟨old, hold, hname, haddress, hstays | ⟨hcame, origin, horigin, hentry⟩⟩ :=
    h referent hmem s hholds
  · exact ⟨old, hold, hname, haddress, Or.inl hstays⟩
  · exact ⟨old, hold, hname, haddress,
      Or.inr ⟨hcame, origin, horigin, hentry.imp_left (hgiven s origin)⟩⟩

/-- Referents that change but stay where they are can be looked at one by one. -/
theorem of_map {change : Referent → Referent}
    (hreferents : after.referents = before.referents.map change)
    (hname : ∀ old, (change old).name = old.name)
    (haddress : ∀ old, (change old).address = old.address)
    (h : ∀ old ∈ before.referents, ∀ s, after.Holds s old.address →
      Enters given before after old.address old.roster (change old).roster s) :
    Accounts given before after := by
  intro referent hmem s hholds
  rw [hreferents, List.mem_map] at hmem
  obtain ⟨old, hold, rfl⟩ := hmem
  rw [haddress] at hholds ⊢
  exact ⟨old, hold, (hname old).symm, rfl, h old hold s hholds⟩

/-- Where no handle comes and referents keep their rosters nothing happens to the entries. -/
theorem of_roster (hholds : ∀ s address, after.Holds s address → before.Holds s address)
    (h : ∀ referent ∈ after.referents, ∀ s, after.Holds s referent.address →
      ∃ old ∈ before.referents, old.name = referent.name ∧ old.address = referent.address ∧
        referent.roster = old.roster) : Accounts given before after := by
  intro referent hmem s hheld
  obtain ⟨old, hold, hname, haddress, hroster⟩ := h referent hmem s hheld
  exact ⟨old, hold, hname, haddress, Or.inl ⟨hholds s _ hheld, by rw [hroster]⟩⟩

/-- A handle that is created on a referent is entered as it was created. -/
theorem created (hlists : config.listsHolders = true) (h : store.WellFormed)
    (hprovenance : ∀ source, provenance ≠ .moved source) :
    Accounts (fun s origin => s = store.nextSerial ∧ origin = provenance) store
      (store.created config form slot provenance) := by
  refine of_map referents_tell (fun old => by split <;> simp) (fun old => by split <;> simp)
    fun old hold s hholds => ?_
  have hname : store.nameAt? slot = some old.name ↔ slot.address = old.address :=
    h.nameAt?_eq_name_iff hold
  have hafter : (store.created config form slot provenance).Holds s old.address ↔
      store.Holds s old.address ∨ s = store.nextSerial ∧ slot.address = old.address := by
    rw [Store.created, holds_tell, holds_addHandle]
  split
  · rw [Referent.receiveAll_messages hprovenance]
    simp only [hlists, if_true]
    exact .join h.not_holds_nextSerial ⟨rfl, rfl⟩
      (fun hheld => (hafter.mp hheld).symm.imp_left And.left) hholds
  · rename_i hother
    rw [hname] at hother
    exact Or.inl ⟨(hafter.mp hholds).resolve_right fun hnew => hother hnew.2, rfl⟩

/-- Of two handles that exchange different referents each is entered as having taken over from the
other. -/
theorem swapped (hlists : config.listsHolders = true) (h : store.WellFormed)
    (ha : store.handle? a = some first) (hb : store.handle? b = some second) :
    Accounts given store (store.swapped config a b) := by
  obtain ⟨hmine, htheirs⟩ := target?_exchangeSlots h ha hb
  have hfirst : ∀ old : Referent, store.Holds a old.address ↔ first.address = old.address :=
    fun old => holds_iff_of_handle? h.nodup_serials ha
  have hsecond : ∀ old : Referent, store.Holds b old.address ↔ second.address = old.address :=
    fun old => holds_iff_of_handle? h.nodup_serials hb
  by_cases hsame : store.nameAt? second.slot = store.nameAt? first.slot
  · refine @of_map _ _ _ id ?_ (fun _ => rfl) (fun _ => rfl) fun old hold s hholds => ?_
    · simp only [Store.swapped, hmine, htheirs, if_pos hsame, referents_exchangeSlots, List.map_id]
    · have hboth : second.address = old.address ↔ first.address = old.address := by
        rw [Handle.address, ← h.nameAt?_eq_name_iff hold, hsame, h.nameAt?_eq_name_iff hold]
        rfl
      refine Or.inl ⟨?_, rfl⟩
      rw [holds_swapped h ha hb] at hholds
      grind
  · refine @of_map _ _ _ (fun old =>
      if store.nameAt? second.slot = some old.name then
        old.receiveAll config [.notice (.move b a)]
      else if store.nameAt? first.slot = some old.name then
        old.receiveAll config [.notice (.move a b)]
      else old) ?_ (fun old => by grind [Referent.name_receiveAll])
      (fun old => by grind [Referent.address_receiveAll]) fun old hold s hholds => ?_
    · simp only [Store.swapped, hmine, htheirs, if_neg hsame]
      rw [referents_tell, referents_tell, referents_exchangeSlots, List.map_map]
      refine List.map_congr_left fun old _ => ?_
      grind [Referent.name_receiveAll]
    · have hmineName : store.nameAt? second.slot = some old.name ↔ store.Holds b old.address :=
        (h.nameAt?_eq_name_iff hold).trans (hsecond old).symm
      have htheirsName : store.nameAt? first.slot = some old.name ↔ store.Holds a old.address :=
        (h.nameAt?_eq_name_iff hold).trans (hfirst old).symm
      have hne : store.Holds b old.address → ¬ store.Holds a old.address := fun hb ha =>
        hsame ((hmineName.mpr hb).trans (htheirsName.mpr ha).symm)
      split
      · rename_i hmineHere
        rw [hmineName] at hmineHere
        simp only [Referent.receiveAll_move, hlists, if_true]
        refine .move (hne hmineHere) hmineHere (fun s => ?_) hholds
        rw [holds_swapped h ha hb]
        grind
      split
      · rename_i _ htheirsHere
        rw [htheirsName] at htheirsHere
        simp only [Referent.receiveAll_move, hlists, if_true]
        refine .move (fun hmineHere => hne hmineHere htheirsHere) htheirsHere (fun s => ?_) hholds
        rw [holds_swapped h ha hb]
        grind
      · rename_i hnotMine hnotTheirs
        rw [hmineName, hsecond] at hnotMine
        rw [htheirsName, hfirst] at hnotTheirs
        rw [holds_swapped h ha hb] at hholds
        refine Or.inl ⟨?_, rfl⟩
        grind

/-- A handle that is released leaves the entries of the others alone. -/
theorem released (hlists : config.listsHolders = true) :
    Accounts given store (store.released config a) := by
  refine of_map referents_tell (fun old => by split <;> simp) (fun old => by split <;> simp)
    fun old hold s hholds => ?_
  rw [holds_released] at hholds
  refine Or.inl ⟨hholds.1, ?_⟩
  split
  · rw [Referent.receiveAll_leave]
    simp [hlists, Roster.provenance?_erase, hholds.2]
  · rfl

/-- A new handle that takes the place of one that has just given up what it held is entered as
having taken over from it. -/
theorem takenOver (hlists : config.listsHolders = true) (h : store.WellFormed)
    (hfound : store.handle? s = some handle)
    (hreferents : between.referents = store.referents)
    (hnext : between.nextSerial = store.nextSerial)
    (hholds : ∀ other, ∀ address ∈ store.sites, between.Holds other address ↔
      store.Holds other address ∧ other ≠ s) :
    Accounts given store (between.created config form handle.slot (.moved s)) := by
  have htold := @referents_tell config (between.addHandle form handle.slot)
    (between.nameAt? handle.slot) (Provenance.messages between.nextSerial (.moved s))
  rw [referents_addHandle, hreferents] at htold
  refine of_map htold (fun old => by split <;> simp) (fun old => by split <;> simp)
    fun old hold other hother => ?_
  have hname : between.nameAt? handle.slot = some old.name ↔ handle.address = old.address := by
    rw [nameAt?_congr hreferents]
    exact h.nameAt?_eq_name_iff hold
  have hafter : ∀ other, (between.created config form handle.slot (.moved s)).Holds other
      old.address ↔ (store.Holds other old.address ∧ other ≠ s) ∨
        other = store.nextSerial ∧ handle.address = old.address := by
    intro other
    rw [Store.created, holds_tell, holds_addHandle,
      hholds other old.address (List.mem_map_of_mem hold), hnext]
    rfl
  split
  · rename_i hhere
    rw [hname] at hhere
    have hheld : store.Holds s old.address :=
      (holds_iff_of_handle? h.nodup_serials hfound).mpr hhere
    simp only [Provenance.messages, Referent.receiveAll_move, hlists, if_true, hnext]
    refine .move h.not_holds_nextSerial hheld (fun other => ?_) hother
    rw [hafter, or_comm, and_iff_left hhere]
  · rename_i hother'
    rw [hname] at hother'
    exact Or.inl ⟨(((hafter other).mp hother).resolve_right fun hnew => hother' hnew.2).1, rfl⟩

end Accounts

/-- Every act accounts for what it does; only a new handle is entered otherwise than as having taken
over from another. -/
theorem Act.accounts (hact : Act config before after) (h : before.Consistent config)
    (hlists : config.listsHolders = true) :
    Accounts (fun s origin => s = before.nextSerial ∧ ∀ source, origin ≠ .moved source)
      before after := by
  cases hact with
  | create settled provenance_eq =>
    refine (Accounts.created hlists h.toWellFormed ?_).imp ?_
    · rcases provenance_eq with rfl | ⟨source, -, -, rfl⟩
      · simp
      · simp
    · rintro _ _ ⟨rfl, rfl⟩
      rcases provenance_eq with rfl | ⟨source, -, -, rfl⟩
      · simp
      · simp
  | swap found_first found_second _ _ =>
    exact .swapped hlists h.toWellFormed found_first found_second
  | release serial => exact .released hlists
  | makeReference found _ _ =>
    exact .takenOver hlists h.toWellFormed found rfl rfl fun other address hsite =>
      h.holds_setSlot_null found hsite
  | makePointer found _ =>
    exact .takenOver hlists h.toWellFormed found rfl rfl fun _ _ _ => holds_removeHandle
  | record entry =>
    exact .of_roster (fun _ _ hholds => hholds) fun referent hmem _ _ =>
      ⟨referent, hmem, rfl, rfl, rfl⟩
  | addReferent new free isSite =>
    refine .of_roster (fun _ _ hholds => hholds) fun referent hmem s hholds => ?_
    rw [Store.addReferent, List.mem_append, List.mem_singleton] at hmem
    rcases hmem with hmem | rfl
    · exact ⟨referent, hmem, rfl, rfl, rfl⟩
    · exact absurd hholds (h.not_holds_of_free isSite free)
  | removeReferent _ _ =>
    exact .of_roster (fun _ _ hholds => hholds) fun referent hmem _ _ =>
      ⟨referent, List.mem_of_mem_filter hmem, rfl, rfl, rfl⟩
  | updateReferent unobtrusive =>
    refine .of_map rfl (fun old => ?_) (fun old => ?_) fun old _ s hholds => Or.inl ⟨hholds, ?_⟩
    · split
      · exact unobtrusive.name_eq old
      · rfl
    · split
      · exact unobtrusive.address_eq old
      · rfl
    · split
      · rw [unobtrusive.roster_eq]
      · rfl

/-! ## Courses -/

/-- Referents list the handles that hold them only in builds that track handles. -/
theorem tracking_of_listsHolders (hlists : config.listsHolders = true) :
    config.build.tracking = true :=
  (Bool.and_eq_true_iff.mp hlists).1

/-- The entry of a handle for the referent at an address tells of the last time that it came there:
it is the old one if the handle has been there all the time, and otherwise it is that of a handle
that is new or tells from which other one the handle has taken over for good. -/
def Traces (start store : Store) : Prop :=
  ∀ referent ∈ store.referents, ∀ s, store.Holds s referent.address →
    ((∀ moment ∈ start.handles :: store.moments, Moment.Holds moment s referent.address) ∧
      ∃ old ∈ start.referents, old.name = referent.name ∧ old.address = referent.address ∧
        referent.roster.provenance? s = old.roster.provenance? s) ∨
    ∃ origin, referent.roster.provenance? s = some origin ∧
      ((start.nextSerial ≤ s ∧ ∀ source, origin ≠ .moved source) ∨
        ∃ source, origin = .moved source ∧
          Moment.TakesOver (start.handles :: store.moments) referent.address source s)

/-- On every course the moments are up to date and the entries of rosters tell of them. -/
theorem Consistent.traces {start : Store} (h : start.Consistent config)
    (hlists : config.listsHolders = true) (hmoments : start.moments = [])
    (hcourse : Course config start store) :
    UpToDate start.handles store ∧ Traces start store := by
  have htracking := tracking_of_listsHolders hlists
  induction hcourse with
  | refl =>
    refine ⟨.refl hmoments, fun referent hmem s hholds => Or.inl ⟨fun moment hmoment => ?_,
      referent, hmem, rfl, rfl, rfl⟩⟩
    rw [hmoments, List.mem_singleton] at hmoment
    exact hmoment ▸ hholds
  | @tail before after hcourse hact ih =>
    obtain ⟨hcurrent, htraces⟩ := ih
    have hbefore := h.course hcourse
    have hshows := hact.shows hbefore htracking
    refine ⟨hcurrent.act hshows, fun referent hmem s hholds => ?_⟩
    have hsite : referent.address.isSite = true :=
      (hact.consistent hbefore).isSite _ (List.mem_map_of_mem hmem)
    obtain ⟨old, hold, hname, haddress, hentry⟩ :=
      hact.accounts hbefore hlists referent hmem s hholds
    obtain ⟨count, hshows, hsame⟩ := hshows
    have hshown : ∀ moment : Moment, moment ∈ List.replicate count after.handles →
        moment.Holds s referent.address :=
      fun moment hmoment => List.eq_of_mem_replicate hmoment ▸ hholds
    rw [hshows, ← List.cons_append]
    rcases hentry with ⟨hheld, hstays⟩ | ⟨hcame, origin, horigin, hgiven | ⟨source, rfl, hleaves⟩⟩
    · rw [hstays]
      rw [← haddress] at hheld hshown ⊢
      rcases htraces old hold s hheld with ⟨hall, first, hfirst, hfirstName, hfirstAddress, hkept⟩ |
        ⟨origin, horigin, hnew | ⟨source, rfl, hsource⟩⟩
      · refine Or.inl ⟨fun moment hmoment => ?_, first, hfirst, hfirstName.trans hname,
          hfirstAddress, hkept⟩
        exact (List.mem_append.mp hmoment).elim (hall moment) (hshown moment)
      · exact Or.inr ⟨origin, horigin, Or.inl hnew⟩
      · exact Or.inr ⟨_, horigin, Or.inr ⟨source, rfl, hsource.append hshown⟩⟩
    · obtain ⟨given, hnext, -⟩ := Course.numbered hcourse
      refine Or.inr ⟨origin, horigin, Or.inl ⟨?_, hgiven.2⟩⟩
      rw [hgiven.1, hnext]
      exact Nat.le_add_right _ _
    · refine Or.inr ⟨_, horigin, Or.inr ⟨source, rfl, ?_⟩⟩
      obtain ⟨past, last, hsplit, hlast⟩ := hcurrent
      have hcame' : ¬ Moment.Holds last s referent.address := by rwa [hlast s _ hsite]
      cases count with
      | zero => exact absurd ((hsame rfl s _ hsite).mp hholds) hcame
      | succ count =>
        refine ⟨past, last, after.handles, List.replicate count after.handles, ?_,
          ⟨?_, hleaves.left, fun other hother => hleaves.unique other ?_⟩, hcame', hshown⟩
        · rw [hsplit, List.append_assoc, List.singleton_append, List.replicate_succ]
        · exact (hlast source _ hsite).mpr hleaves.held
        · exact (hlast other _ hsite).mp hother

end Store

end CountedHandles
