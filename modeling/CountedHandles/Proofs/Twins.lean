import CountedHandles.Proofs.Sources

/-!
# Twin sessions

Two sessions are twins with regard to some names if these stand for the same handles in both, if
these handles stand in the same way, and if the referents are the same apart from the handles that
hold them. In all else they may differ, and in the second one more serial numbers may have been
given out. What is done to the handles of these names then comes to the same in both sessions but
for the numbers of new handles, and it leaves every other handle as it is.
-/

namespace CountedHandles

/-- A serial number, put off by as many as have been given out in the meantime if it was still to be
given out. -/
def Serial.shift (next given s : Serial) : Serial :=
  if s < next then s else s + given

namespace Serial

variable {next given s other : Serial}

/-- A number that has been given out stays. -/
theorem shift_of_lt (h : s < next) : shift next given s = s := if_pos h

/-- A number that is still to be given out is put off. -/
theorem shift_of_le (h : next ≤ s) : shift next given s = s + given :=
  if_neg (Nat.not_lt_of_le h)

/-- Different numbers stay different. -/
theorem shift_injective : Function.Injective (shift next given) := by
  intro s other heq
  unfold shift at heq
  split at heq <;> split at heq <;> lia

/-- The number after one that is put off is put off as far. -/
theorem shift_succ (h : next ≤ s) : shift next given (s + 1) = shift next given s + 1 := by
  rw [shift_of_le h, shift_of_le (Nat.le_succ_of_le h), Nat.add_right_comm]

end Serial

/-- Two sessions that cannot be told apart by what is under some names. -/
structure Twins (config : Config) (names : List String) where
  /-- One session. -/
  first : Session
  /-- The other session, in which more handles may have come into being. -/
  second : Session
  /-- The first session is sound. -/
  first_sound : first.Sound config
  /-- The second session is sound. -/
  second_sound : second.Sound config
  /-- The entries of the first session name no numbers that are to come. -/
  dated : first.store.Dated
  /-- At least as many numbers have been given out in the second session. -/
  nextSerial_le : first.store.nextSerial ≤ second.store.nextSerial
  /-- The same referents have been created. -/
  created_eq : second.created = first.created
  /-- The same referents exist. -/
  ground_eq : second.store.census.ground = first.store.census.ground
  /-- The names stand for the same handles. -/
  serial?_eq : ∀ name ∈ names, second.serial? name = first.serial? name
  /-- These handles stand in the same way. -/
  standing?_eq : ∀ name ∈ names, ∀ s, first.serial? name = some s →
    second.store.standing? s = first.store.standing? s

/-- No handle bears a serial number that is to come. -/
theorem Store.WellFormed.handle?_of_le {store : Store} {s : Serial} (h : store.WellFormed)
    (hle : store.nextSerial ≤ s) : store.handle? s = none :=
  handle?_eq_none_iff.mpr fun hmem => absurd (h.serial_lt s hmem) (Nat.not_lt_of_le hle)

/-- A handle that is kept has come into being. -/
theorem Session.Holding.lt_of_mem_kept {config : Config} {session : Session} {s : Serial}
    (h : session.Sound config) (hmem : s ∈ session.kept) : s < session.store.nextSerial :=
  h.consistent.serial_lt s (h.kept_perm.mem_iff.mp hmem)

namespace Twins

variable {config : Config} {names : List String} (twins : Twins config names)

/-- How many more numbers have been given out in the second session. -/
def given : Nat :=
  twins.second.store.nextSerial - twins.first.store.nextSerial

/-- The number that a handle has in the second session. -/
def shift : Serial → Serial :=
  Serial.shift twins.first.store.nextSerial twins.given

/-- A handle is under one of the names. -/
def Owns (s : Serial) : Prop :=
  ∃ name ∈ names, twins.first.serial? name = some s

/-- A handle is under one of the names or is new. -/
def Within (s : Serial) : Prop :=
  twins.Owns s ∨ twins.first.store.nextSerial ≤ s

variable {twins} {census census' : Census} {store store' : Store} {session session' : Session}
  {a b s : Serial} {form : Form} {slot : Slot} {provenance provenance' : Provenance}
  {handle first second : Handle} {name : String} {standing? standing?' : Option Standing}

/-- A handle that a name stands for has come into being. -/
theorem lt_of_serial? (hserial : twins.first.serial? name = some s) :
    s < twins.first.store.nextSerial :=
  twins.first_sound.lt_of_mem_kept (Session.mem_kept_of_serial? hserial)

/-- A handle under one of the names has come into being. -/
theorem Owns.lt (h : twins.Owns s) : s < twins.first.store.nextSerial := by
  obtain ⟨name, -, hserial⟩ := h
  exact lt_of_serial? hserial

/-- A handle that has come into being keeps its number. -/
theorem shift_of_lt (h : s < twins.first.store.nextSerial) : twins.shift s = s :=
  Serial.shift_of_lt h

/-- A handle under one of the names has one number. -/
theorem Owns.shift_eq (h : twins.Owns s) : twins.shift s = s :=
  shift_of_lt h.lt

/-- Different handles have different numbers in the second session. -/
theorem shift_injective : Function.Injective twins.shift :=
  Serial.shift_injective

/-- The second session has given out its numbers and those of the first. -/
theorem nextSerial_second :
    twins.second.store.nextSerial = twins.first.store.nextSerial + twins.given :=
  (Nat.add_sub_cancel' twins.nextSerial_le).symm

/-- The second session goes on where it is. -/
theorem shift_nextSerial :
    twins.shift twins.first.store.nextSerial = twins.second.store.nextSerial := by
  rw [shift, Serial.shift_of_le (Nat.le_refl _), nextSerial_second]

/-- A handle of the second session that is not under one of the names and is not new to it is none
of those that are compared. -/
theorem Within.shift_ne (h : twins.Within a) (hlt : s < twins.second.store.nextSerial)
    (howns : ¬ twins.Owns s) : s ≠ twins.shift a := by
  rintro rfl
  rcases h with hown | hnew
  · rw [shift_of_lt hown.lt] at howns
    exact howns hown
  · rw [shift, Serial.shift_of_le hnew, given] at hlt
    have hle := twins.nextSerial_le
    lia

/-! ## Censuses -/

/-- Two censuses say the same of the handles that are under the names or new, and of all others what
they said before. -/
structure CensusesAgree (twins : Twins config names) (census census' : Census) : Prop where
  /-- No number is given out twice. -/
  next_le : twins.first.store.nextSerial ≤ census.nextSerial
  /-- As many numbers have been given out. -/
  nextSerial_eq : census'.nextSerial = twins.shift census.nextSerial
  /-- The referents are as in the first session, apart from the handles that hold them. -/
  ground_first : census.ground = twins.first.store.census.ground
  /-- The referents are the same apart from the handles that hold them. -/
  ground_eq : census'.ground = census.ground
  /-- The handles that are compared stand in the same way. -/
  standing?_eq : ∀ s, twins.Within s → census'.standing? (twins.shift s) =
    (census.standing? s).map (Standing.renumber twins.shift)
  /-- All others stand as in the first session. -/
  standing?_first : ∀ s < twins.first.store.nextSerial, ¬ twins.Owns s →
    census.standing? s = twins.first.store.standing? s
  /-- All others stand as in the second session. -/
  standing?_second : ∀ s < twins.second.store.nextSerial, ¬ twins.Owns s →
    census'.standing? s = twins.second.store.standing? s

namespace CensusesAgree

/-- The censuses of twin sessions agree. -/
theorem refl : twins.CensusesAgree twins.first.store.census twins.second.store.census where
  next_le := Nat.le_refl _
  nextSerial_eq := shift_nextSerial.symm
  ground_first := rfl
  ground_eq := twins.ground_eq
  standing?_eq := by
    rintro s (⟨name, hname, hserial⟩ | hnew)
    · have hlt := lt_of_serial? hserial
      rw [shift_of_lt hlt, Store.standing?_census, twins.standing?_eq name hname s hserial,
        Store.standing?_census, twins.dated.map_renumber_of_fixed fun _ => shift_of_lt]
    · have hfirst : twins.first.store.handle? s = none :=
        twins.first_sound.consistent.handle?_of_le hnew
      have hsecond : twins.second.store.handle? (twins.shift s) = none := by
        refine twins.second_sound.consistent.handle?_of_le ?_
        rw [shift, Serial.shift_of_le hnew, given]
        have hle := twins.nextSerial_le
        lia
      rw [Store.standing?_census, Store.standing?, hsecond, Store.standing?_census, Store.standing?,
        hfirst]
      rfl
  standing?_first := fun _ _ _ => rfl
  standing?_second := fun _ _ _ => rfl

variable (h : twins.CensusesAgree census census')

include h

/-- A slot leads to the same referent in both. -/
theorem nameAt?_eq : census'.nameAt? slot = census.nameAt? slot := by
  rw [Census.nameAt?, h.ground_eq, Census.nameAt?]

/-- A handle that comes is entered in the same way in both. -/
theorem entry?_eq : census'.entry? config slot (provenance.renumber twins.shift) =
    (census.entry? config slot provenance).map (Provenance.renumber twins.shift) := by
  rw [Census.entry?, h.nameAt?_eq, Census.entry?]
  split
  · rw [Option.map_map]
    rfl
  · rfl

/-- A handle that is compared comes to stand in another way. -/
theorem put (hs : twins.Within s)
    (hput : standing?' = standing?.map (Standing.renumber twins.shift)) :
    twins.CensusesAgree (census.put s standing?) (census'.put (twins.shift s) standing?') where
  next_le := h.next_le
  nextSerial_eq := h.nextSerial_eq
  ground_first := h.ground_first
  ground_eq := h.ground_eq
  standing?_eq := by
    intro other hother
    rw [Census.standing?_put, Census.standing?_put]
    by_cases hsame : other = s
    · rw [if_pos (congrArg _ hsame), if_pos hsame, hput]
    · rw [if_neg (shift_injective.ne hsame), if_neg hsame, h.standing?_eq other hother]
  standing?_first := by
    intro other hlt howns
    have hne : other ≠ s := by
      rintro rfl
      exact hs.elim howns (Nat.not_le_of_lt hlt)
    rw [Census.standing?_put, if_neg hne, h.standing?_first other hlt howns]
  standing?_second := by
    intro other hlt howns
    rw [Census.standing?_put, if_neg (hs.shift_ne hlt howns), h.standing?_second other hlt howns]

/-- A handle is created in both. -/
theorem create : twins.CensusesAgree (census.create config form slot provenance)
    (census'.create config form slot (provenance.renumber twins.shift)) := by
  have hput := @put _ _ _ _ _ census.nextSerial
    (some ⟨form, slot, census.entry? config slot provenance⟩)
    (some ⟨form, slot, census'.entry? config slot (provenance.renumber twins.shift)⟩) h
    (Or.inr h.next_le) (by rw [h.entry?_eq]; rfl)
  rw [← h.nextSerial_eq] at hput
  refine { hput with next_le := Nat.le_succ_of_le h.next_le, nextSerial_eq := ?_ }
  change census'.nextSerial + 1 = twins.shift (census.nextSerial + 1)
  rw [h.nextSerial_eq, shift, Serial.shift_succ h.next_le]

/-- Two handles that are compared exchange what they hold in both. -/
theorem exchange (ha : twins.Within a) (hb : twins.Within b) :
    twins.CensusesAgree (census.exchange config a b)
      (census'.exchange config (twins.shift a) (twins.shift b)) := by
  have hgiven : ∀ mine theirs source,
      (census'.given config (Standing.renumber twins.shift mine)
        (Standing.renumber twins.shift theirs) (twins.shift source)) =
          (census.given config mine theirs source).renumber twins.shift := by
    intro mine theirs source
    have hentry : census'.entry? config theirs.slot (.moved (twins.shift source)) =
        (census.entry? config theirs.slot (.moved source)).map (Provenance.renumber twins.shift) :=
      @entry?_eq _ _ _ _ _ theirs.slot (.moved source) h
    simp only [Census.given, Standing.renumber, h.nameAt?_eq, hentry, Standing.mk.injEq, true_and]
    split <;> rfl
  have hmine := h.standing?_eq a ha
  have htheirs := h.standing?_eq b hb
  unfold Census.exchange
  rw [hmine, htheirs]
  cases census.standing? a with
  | none => exact h
  | some mine =>
    cases census.standing? b with
    | none => exact h
    | some theirs =>
      refine (h.put ha ?_).put hb ?_
      · exact congrArg some (hgiven mine theirs b)
      · exact congrArg some (hgiven theirs mine a)

end CensusesAgree

/-! ## Stores -/

/-- Two consistent stores whose censuses agree. -/
structure StoresAgree (twins : Twins config names) (store store' : Store) : Prop
    extends twins.CensusesAgree store.census store'.census where
  /-- The one store is consistent. -/
  consistent : store.Consistent config
  /-- The other store is consistent. -/
  consistent' : store'.Consistent config

namespace StoresAgree

/-- The stores of twin sessions agree. -/
theorem refl : twins.StoresAgree twins.first.store twins.second.store :=
  ⟨.refl, twins.first_sound.consistent, twins.second_sound.consistent⟩

variable (h : twins.StoresAgree store store')

include h

/-- The other store stays as many numbers ahead. -/
theorem nextSerial_add : store'.nextSerial = store.nextSerial + twins.given :=
  h.nextSerial_eq.trans (Serial.shift_of_le h.next_le)

/-- Referents lie at the same places in both. -/
theorem sites_eq : store'.sites = store.sites :=
  Store.sites_of_ground h.ground_eq

/-- A handle that can come in one can come in the other. -/
theorem settled (hsettled : (store.nextHandle form slot).Settled store) :
    (store'.nextHandle form slot).Settled store' := by
  rwa [Handle.Settled, h.sites_eq]

/-- A handle that is compared is found in both with the same form and content. -/
theorem handle?_eq (hs : twins.Within s) (hfound : store.handle? s = some handle) :
    store'.handle? (twins.shift s) = some ⟨twins.shift s, handle.form, handle.slot⟩ := by
  have hstanding := h.standing?_eq s hs
  rw [Store.standing?_census, Store.standing?_census, Store.standing?_of_handle? hfound,
    Option.map_some] at hstanding
  exact (Store.handle?_of_standing? hstanding).1

/-- A handle is created in both. -/
theorem created (hsettled : (store.nextHandle form slot).Settled store)
    (hfresh : ∀ source, provenance ≠ .moved source)
    (hprovenance : provenance' = provenance.renumber twins.shift) :
    twins.StoresAgree (store.created config form slot provenance)
      (store'.created config form slot provenance') := by
  have hfresh' : ∀ source, provenance' ≠ .moved source := by
    rintro source rfl
    cases provenance with
    | created => cases hprovenance
    | copied other => cases hprovenance
    | moved other => exact hfresh other rfl
  refine ⟨?_, h.consistent.created hsettled hfresh,
    h.consistent'.created (h.settled hsettled) hfresh'⟩
  rw [h.consistent.census_created hfresh, h.consistent'.census_created hfresh', hprovenance]
  exact h.create

/-- Two handles of one form that are compared exchange what they hold in both. -/
theorem swapped (ha : twins.Within a) (hb : twins.Within b) (hfirst : store.handle? a = some first)
    (hsecond : store.handle? b = some second) (hform : first.form = second.form) :
    twins.StoresAgree (store.swapped config a b)
      (store'.swapped config (twins.shift a) (twins.shift b)) := by
  have hfirst' := h.handle?_eq ha hfirst
  have hsecond' := h.handle?_eq hb hsecond
  refine ⟨?_, h.consistent.swapped hfirst hsecond hform,
    h.consistent'.swapped hfirst' hsecond' hform⟩
  rw [h.consistent.census_swapped hfirst hsecond, h.consistent'.census_swapped hfirst' hsecond']
  exact h.exchange ha hb

/-- A handle that is compared is released in both. -/
theorem released (hs : twins.Within s) :
    twins.StoresAgree (store.released config s) (store'.released config (twins.shift s)) := by
  refine ⟨?_, h.consistent.released s, h.consistent'.released _⟩
  rw [Store.census_released, Store.census_released]
  exact h.put hs rfl

/-- Records for the log make no difference. -/
theorem addEvent {entry entry' : LogRecord} :
    twins.StoresAgree (store.addEvent (.log entry)) (store'.addEvent (.log entry')) :=
  ⟨h.toCensusesAgree, (Store.Act.record entry).consistent h.consistent,
    (Store.Act.record entry').consistent h.consistent'⟩

/-- A handle that is compared takes a new value from a temporary one in both. -/
theorem reassigned (ha : twins.Within a) (hb : twins.Within b)
    (hfirst : store.handle? a = some first) (hsecond : store.handle? b = some second)
    (hform : first.form = second.form) :
    twins.StoresAgree (store.reassigned config a b)
      (store'.reassigned config (twins.shift a) (twins.shift b)) :=
  (h.swapped ha hb hfirst hsecond hform).released hb

/-- A handle that is compared is renewed in both. -/
theorem renewed (hs : twins.Within s) (hfound : store.handle? s = some handle)
    (hsettled : (store.nextHandle handle.form slot).Settled store)
    (hfresh : ∀ source, provenance ≠ .moved source)
    (hprovenance : provenance' = provenance.renumber twins.shift) :
    twins.StoresAgree (store.renewed config s handle.form slot provenance)
      (store'.renewed config (twins.shift s) handle.form slot provenance') := by
  have hcreated := h.created hsettled hfresh hprovenance
  have hnext : store'.nextSerial = twins.shift store.nextSerial := h.nextSerial_eq
  rw [Store.renewed, Store.renewed, hnext]
  exact hcreated.reassigned hs (Or.inr h.next_le) (Store.handle?_created hfound)
    (Store.handle?_created_nextSerial h.consistent.toWellFormed) rfl

/-- A value of a pointer that is compared is moved out in both. -/
theorem movedOut (hs : twins.Within s) (hfound : store.handle? s = some handle)
    (hform : handle.form = .pointer) :
    twins.StoresAgree (store.movedOut config handle.scheme s)
      (store'.movedOut config handle.scheme (twins.shift s)) := by
  have hcreated := @created _ _ _ _ _ .pointer _ .created .created h
    (Store.settled_null handle.scheme) (by simp) rfl
  have hnext : store'.nextSerial = twins.shift store.nextSerial := h.nextSerial_eq
  rw [Store.movedOut, Store.movedOut, hnext]
  exact hcreated.swapped (Or.inr h.next_le) hs
    (Store.handle?_created_nextSerial h.consistent.toWellFormed) (Store.handle?_created hfound)
    hform.symm

/-- A handle under one of the names is the same in both until it changes. -/
theorem handle?_eq_of_owns (hs : twins.Owns handle.serial)
    (hfound : store.handle? handle.serial = some handle) :
    store'.handle? handle.serial = some handle := by
  have hfound' := h.handle?_eq (Or.inl hs) hfound
  rwa [hs.shift_eq] at hfound'

/-- A bucket under one of the names is deleted in both by taking its value out. -/
theorem vacated (hs : twins.Owns handle.serial)
    (hfound : store.handle? handle.serial = some handle) (hform : handle.form = .pointer) :
    twins.StoresAgree (store.vacated config handle) (store'.vacated config handle) := by
  have hrecorded := @addEvent _ _ _ _ _ h (.reclaiming handle.address)
    (.reclaiming handle.address)
  have hmoved := (hrecorded.movedOut (Or.inl hs) hfound hform).released (Or.inr h.next_le)
  have hempty := Store.handle?_emptied hrecorded.consistent hfound
  have hmarked := @renewed _ _ _ _ _ _ (Slot.deleted handle.scheme) .created .created
    { handle with slot := Slot.null handle.scheme } hmoved (Or.inl hs) hempty
    (hform ▸ Store.settled_deleted handle.scheme) (by simp) rfl
  rw [hs.shift_eq, ← h.nextSerial_eq] at hmarked
  exact hmarked

/-- A pointer under one of the names becomes a reference in both. -/
theorem madeReference (hs : twins.Owns handle.serial)
    (hfound : store.handle? handle.serial = some handle) (hform : handle.form = .pointer)
    (hlive : handle.address ∈ store.sites) :
    twins.StoresAgree (store.madeReference config handle)
      (store'.madeReference config handle) := by
  have hfound' := h.handle?_eq_of_owns hs hfound
  refine ⟨?_, h.consistent.madeReference hfound hform hlive,
    h.consistent'.madeReference hfound' hform (h.sites_eq ▸ hlive)⟩
  have hemptied := @CensusesAgree.put _ _ _ _ _ _ (some ⟨.pointer, Slot.null handle.scheme, none⟩) _
    h.toCensusesAgree (Or.inl hs) rfl
  have hmade := @CensusesAgree.create _ _ _ _ _ .reference handle.slot (.moved handle.serial)
    hemptied
  rw [Provenance.renumber, hs.shift_eq] at hmade
  rw [h.consistent.census_madeReference hfound hform,
    h.consistent'.census_madeReference hfound' hform]
  exact hmade

/-- A reference under one of the names becomes a pointer in both. -/
theorem madePointer (hs : twins.Owns handle.serial)
    (hfound : store.handle? handle.serial = some handle) (hform : handle.form = .reference) :
    twins.StoresAgree (store.madePointer config handle) (store'.madePointer config handle) := by
  have hfound' := h.handle?_eq_of_owns hs hfound
  refine ⟨?_, h.consistent.madePointer hfound hform, h.consistent'.madePointer hfound' hform⟩
  have hgone := @CensusesAgree.put _ _ _ _ _ _ none _ h.toCensusesAgree (Or.inl hs) rfl
  have hmade := @CensusesAgree.create _ _ _ _ _ .pointer handle.slot (.moved handle.serial) hgone
  rw [Provenance.renumber, hs.shift_eq] at hmade
  rw [h.consistent.census_madePointer, h.consistent'.census_madePointer]
  exact hmade

end StoresAgree

/-! ## Sessions -/

/-- Two sessions whose stores agree and in which the names stand for the same handles. All else is
as it was in the twin sessions. -/
structure SessionsAgree (twins : Twins config names) (session session' : Session) : Prop
    extends twins.StoresAgree session.store session'.store where
  /-- The names stand for the same handles. -/
  serial?_eq : ∀ name ∈ names, session'.serial? name = (session.serial? name).map twins.shift
  /-- These handles are compared. -/
  within : ∀ name ∈ names, ∀ s, session.serial? name = some s → twins.Within s
  /-- Other names stand for what they stood for in the first session. -/
  serial?_first : ∀ name ∉ names, session.serial? name = twins.first.serial? name
  /-- Other names stand for what they stood for in the second session. -/
  serial?_second : ∀ name ∉ names, session'.serial? name = twins.second.serial? name
  /-- All else is as in the first session. -/
  rest_first : session =
    { twins.first with store := session.store, names := session.names }
  /-- All else is as in the second session. -/
  rest_second : session' =
    { twins.second with store := session'.store, names := session'.names }

namespace SessionsAgree

/-- Twin sessions agree. -/
theorem refl : twins.SessionsAgree twins.first twins.second where
  toStoresAgree := .refl
  serial?_eq := by
    intro name hname
    rw [twins.serial?_eq name hname]
    cases hserial : twins.first.serial? name with
    | none => rfl
    | some s => rw [Option.map_some, shift_of_lt (lt_of_serial? hserial)]
  within := fun name hname s hserial => Or.inl ⟨name, hname, hserial⟩
  serial?_first := fun _ _ => rfl
  serial?_second := fun _ _ => rfl
  rest_first := rfl
  rest_second := rfl

variable (h : twins.SessionsAgree session session')

include h

/-- The same referents have been created as in the first session. -/
theorem created_first : session.created = twins.first.created := by
  rw [h.rest_first]

/-- The same referents have been created as in the second session. -/
theorem created_second : session'.created = twins.second.created := by
  rw [h.rest_second]

/-- The sets have the members that they have in the first session. -/
theorem members_first {scheme : Scheme} :
    session.members scheme = twins.first.members scheme := by
  rw [h.rest_first]
  cases scheme <;> rfl

/-- The sets have the members that they have in the second session. -/
theorem members_second {scheme : Scheme} :
    session'.members scheme = twins.second.members scheme := by
  rw [h.rest_second]
  cases scheme <;> rfl

/-- Sessions go on to agree when their stores do. -/
theorem withStore (hstores : twins.StoresAgree store store') :
    twins.SessionsAgree { session with store := store } { session' with store := store' } where
  toStoresAgree := hstores
  serial?_eq := h.serial?_eq
  within := h.within
  serial?_first := h.serial?_first
  serial?_second := h.serial?_second
  rest_first := by rw [h.rest_first]
  rest_second := by rw [h.rest_second]

/-- One of the names is freed in both. -/
theorem freeName (hname : name ∈ names) :
    twins.SessionsAgree (session.freeName name) (session'.freeName name) where
  toStoresAgree := h.toStoresAgree
  serial?_eq := by
    intro other hother
    rw [Session.serial?_freeName, Session.serial?_freeName, h.serial?_eq other hother]
    split <;> rfl
  within := by
    intro other hother s hserial
    rw [Session.serial?_freeName] at hserial
    split at hserial
    · cases hserial
    · exact h.within other hother s hserial
  serial?_first := by
    intro other hother
    have hne : other ≠ name := fun heq => hother (heq ▸ hname)
    rw [Session.serial?_freeName, if_neg hne, h.serial?_first other hother]
  serial?_second := by
    intro other hother
    have hne : other ≠ name := fun heq => hother (heq ▸ hname)
    rw [Session.serial?_freeName, if_neg hne, h.serial?_second other hother]
  rest_first := by rw [h.rest_first]; rfl
  rest_second := by rw [h.rest_second]; rfl

/-- One of the names is bound to a handle that is compared, in both. -/
theorem bindName (hname : name ∈ names) (hs : twins.Within s) :
    twins.SessionsAgree (session.bindName name s) (session'.bindName name (twins.shift s)) where
  toStoresAgree := h.toStoresAgree
  serial?_eq := by
    intro other hother
    rw [Session.serial?_bindName, Session.serial?_bindName, h.serial?_eq other hother]
    split <;> rfl
  within := by
    intro other hother found hserial
    rw [Session.serial?_bindName] at hserial
    split at hserial
    · exact Option.some.inj hserial ▸ hs
    · exact h.within other hother found hserial
  serial?_first := by
    intro other hother
    have hne : other ≠ name := fun heq => hother (heq ▸ hname)
    rw [Session.serial?_bindName, if_neg hne, h.serial?_first other hother]
  serial?_second := by
    intro other hother
    have hne : other ≠ name := fun heq => hother (heq ▸ hname)
    rw [Session.serial?_bindName, if_neg hne, h.serial?_second other hother]
  rest_first := by rw [h.rest_first]; rfl
  rest_second := by rw [h.rest_second]; rfl

end SessionsAgree

end Twins

end CountedHandles
