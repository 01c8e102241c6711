import CountedHandles.Proofs.Runs

/-!
# Permission

A command that changes handles can be refused for a few reasons only: a name stands for no handle or
for no referent, two names are the same, handles do not have the right types, or the address cannot
be given to the handle. This file says so of the session in which the command is given, and shows
that a command which is permitted is never refused, and that any other one always is.
-/

namespace CountedHandles

/-- What a handle of some type can be given: an address at which a referent lies, null or the mark
of a deleted raw bucket if it is a pointer, and an address that will not fit. -/
def Store.Admits (store : Store) (form : Form) (scheme : Scheme) (address : Address) : Prop :=
  address ∈ store.sites ∨
    form = .pointer ∧
      (address = Address.null ∨ scheme = .raw ∧ address = (Slot.deleted .raw).address) ∨
    scheme = .packed ∧ ¬ SixBytes.Fits address

/-- A handle may be made of exactly the addresses that it can be given. -/
theorem Store.allows_iff {store : Store} {form : Form} {scheme : Scheme} {address : Address} :
    store.allows form scheme address = true ↔ store.Admits form scheme address := by
  have hlive : (store.referentAt? address).isSome = true ↔ address ∈ store.sites := by
    simp [referentAt?, sites]
  cases scheme <;> cases form <;> simp [allows, Admits, hlive]

namespace Session

/-- Two different names stand for handles of one type, which on request are pointers. -/
def PermitsPair (session : Session) (first second : String) (pointers : Bool) : Prop :=
  ∃ a b, session.handle? first = some a ∧ session.handle? second = some b ∧ first ≠ second ∧
    a.form = b.form ∧ a.scheme = b.scheme ∧ (pointers = true → a.form = .pointer)

/-- A name stands for a pointer. -/
def PermitsPointer (session : Session) (name : String) : Prop :=
  ∃ handle, session.handle? name = some handle ∧ handle.form = .pointer

/-- What a command that changes handles asks of a session: all that it names is there and of the
right type, and the address can be given to the handle. -/
def Permits (session : Session) : ChangeCommand → Prop
  | .assignPointer name source => session.PermitsPair name source true
  | .assignMove name source => session.PermitsPair name source true
  | .assignHandle name source => session.PermitsPair name source false
  | .swap name other => session.PermitsPair name other false
  | .pointAt name referentName =>
    ∃ handle referent, session.handle? name = some handle ∧
      session.store.referent? referentName = some referent
  | .pointAtAddress name place =>
    ∃ handle address, session.handle? name = some handle ∧
      session.addressOf? place = some address ∧
      session.store.Admits handle.form handle.scheme address
  | .clear name => session.PermitsPointer name
  | .markDeleted name => session.PermitsPointer name
  | .vacateBucket name => session.PermitsPointer name
  | .replaceBucket name => session.PermitsPointer name

end Session

/-- What a command that changes handles comes to if it changes none. -/
inductive Session.Declines (session : Session) (command : ChangeCommand) : Outcome → Prop
  /-- It is permitted, but it misuses a handle and is answered with the panic for that. -/
  | misused {cause : Panic} (permits : session.Permits command)
      (misuse : session.misuse? (.change command) = some cause) :
      Declines session command (.panicked cause)
  /-- It is not permitted and is refused. -/
  | refused {refusal : Refusal} (not_permits : ¬ session.Permits command) :
      Declines session command (.refused refusal)

namespace ChangeCommand

open Turn Session

variable {config : Config} {session : Session} {first second : String} {pointers : Bool}

/-- Two different handles of one type are looked up. -/
theorem run_sameType {a b : Handle} (ha : session.handle? first = some a)
    (hb : session.handle? second = some b) (hne : first ≠ second) (htype : a.sameType b = true)
    (hpointers : pointers = true → a.form = .pointer) :
    sameType first second pointers session = .ok (a, b) session := by
  have hdistinct : distinct first second session = .ok (a, b) session := by
    have hnames : (first != second) = true := by simpa using hne
    simp only [distinct, run_bind, run_handle ha, run_handle hb, hnames, run_require_true]
    rfl
  have hform : (!pointers || a.form == .pointer) = true := by
    cases pointers with
    | false => rfl
    | true => simpa using hpointers rfl
  simp only [sameType, run_bind, hdistinct, htype, hform, Bool.and_true, run_require_true]
  rfl

/-- A change of the store refuses nothing. -/
theorem ends_act_not_refused {operation : Operation Unit} :
    (act operation).Ends session (fun _ _ => True)
      fun stop _ => ∀ refusal, stop ≠ .refused refusal :=
  ends_bind (ends_perform_not_refused.imp fun _ _ _ => ends_pure trivial)

/-- A command that is permitted is not refused. -/
theorem ends_run_of_permits (command : ChangeCommand) (h : session.Sound config)
    (hpermits : session.Permits command) :
    (command.run config).Ends session (fun _ _ => True)
      fun stop _ => ∀ refusal, stop ≠ .refused refusal := by
  have hpair {first second : String} {pointers : Bool}
      {operation : Handle → Handle → Operation Unit}
      (hpair : session.PermitsPair first second pointers) :
      (sameType first second pointers >>= fun handles =>
        act (operation handles.1 handles.2)).Ends session (fun _ _ => True)
        fun stop _ => ∀ refusal, stop ≠ .refused refusal := by
    obtain ⟨a, b, ha, hb, hne, hform, hscheme, hpointers⟩ := hpair
    have htype : a.sameType b = true := by simp [Handle.sameType, hform, hscheme]
    exact ends_bind (ends_of_run (run_sameType ha hb hne htype hpointers) ends_act_not_refused)
  have hpointer {name : String} {operation : Handle → Operation Unit}
      (hpointer : session.PermitsPointer name) :
      (pointer name >>= fun handle => act (operation handle)).Ends session (fun _ _ => True)
        fun stop _ => ∀ refusal, stop ≠ .refused refusal := by
    obtain ⟨handle, hfound, hform⟩ := hpointer
    exact ends_bind (ends_pointer_of_found hfound hform ends_act_not_refused)
  cases command with
  | assignPointer name source => exact hpair hpermits
  | assignMove name source => exact hpair hpermits
  | assignHandle name source => exact hpair hpermits
  | swap name other =>
    exact @hpair _ _ _ (fun a b => Handle.swap config a.serial b.serial) hpermits
  | pointAt name referentName =>
    obtain ⟨handle, referent, hfound, hreferent⟩ := hpermits
    exact ends_bind (ends_of_run (run_referent hreferent)
      (ends_bind (ends_of_run (run_handle hfound) ends_act_not_refused)))
  | pointAtAddress name place =>
    obtain ⟨handle, address, hfound, hgiven, hadmits⟩ := hpermits
    have hallows := Store.allows_iff.mpr hadmits
    exact ends_bind (ends_of_run (run_handle hfound)
      (ends_bind (ends_of_run (run_resolveFor hgiven hallows) ends_act_not_refused)))
  | clear name => exact hpointer hpermits
  | markDeleted name => exact hpointer hpermits
  | vacateBucket name => exact hpointer hpermits
  | replaceBucket name =>
    obtain ⟨doomed, hfound, hform⟩ := hpermits
    refine ((ends_runReplaceBucket_of_found h hfound hform).imp fun _ _ _ => trivial).cut_imp ?_
    rintro _ _ ⟨rfl, -⟩ refusal hrefused
    cases hrefused

/-- A command that is not permitted is refused. -/
theorem ends_run_of_not_permits (command : ChangeCommand) (hpermits : ¬ session.Permits command) :
    (command.run config).Ends session (fun _ _ => False)
      fun stop _ => ∃ refusal, stop = .refused refusal := by
  have hrefuse : ∀ refusal, ∃ given, Stop.refused refusal = .refused given :=
    fun refusal => ⟨refusal, rfl⟩
  have hpair {first second : String} {pointers : Bool} {next : Handle × Handle → Turn Answer}
      (hnone : ¬ session.PermitsPair first second pointers) :
      (sameType first second pointers >>= next).Ends session (fun _ _ => False)
        fun stop _ => ∃ refusal, stop = .refused refusal := by
    refine ends_bind (ends_sameType
      (fun a b haSerial ha hbSerial hb hne hform hscheme hpointers => ?_) hrefuse)
    exact absurd ⟨a, b, handle?_of_serial? haSerial ha, handle?_of_serial? hbSerial hb, hne, hform,
      hscheme, hpointers⟩ hnone
  have hpointer {name : String} {next : Handle → Turn Answer}
      (hnone : ¬ session.PermitsPointer name) :
      (pointer name >>= next).Ends session (fun _ _ => False)
        fun stop _ => ∃ refusal, stop = .refused refusal := by
    refine ends_bind (ends_pointer (fun handle hserial hstored hform => ?_) hrefuse)
    exact absurd ⟨handle, handle?_of_serial? hserial hstored, hform⟩ hnone
  cases command with
  | assignPointer name source => exact hpair hpermits
  | assignMove name source => exact hpair hpermits
  | assignHandle name source => exact hpair hpermits
  | swap name other => exact hpair hpermits
  | pointAt name referentName =>
    refine ends_bind (ends_referent (fun referent hreferent => ?_) hrefuse)
    refine ends_bind (ends_handle (fun handle hserial hstored => ?_) hrefuse)
    exact absurd ⟨handle, referent, handle?_of_serial? hserial hstored, hreferent⟩ hpermits
  | pointAtAddress name place =>
    refine ends_bind (ends_handle (fun handle hserial hstored => ?_) hrefuse)
    refine ends_bind (ends_resolveFor (fun address hgiven hallows => ?_) hrefuse)
    exact absurd ⟨handle, address, handle?_of_serial? hserial hstored, hgiven,
      Store.allows_iff.mp hallows⟩ hpermits
  | clear name => exact hpointer hpermits
  | markDeleted name => exact hpointer hpermits
  | vacateBucket name => exact hpointer hpermits
  | replaceBucket name => exact hpointer hpermits

/-- A command is refused exactly if it is not permitted. -/
theorem ends_run_permits (command : ChangeCommand) (h : session.Sound config) :
    (command.run config).Ends session (fun _ _ => session.Permits command)
      fun stop _ => (∃ refusal, stop = .refused refusal) ↔ ¬ session.Permits command := by
  by_cases hpermits : session.Permits command
  · refine ((ends_run_of_permits command h hpermits).imp fun _ _ _ => hpermits).cut_imp ?_
    intro stop _ hstop
    exact iff_of_false (not_exists.mpr hstop) (not_not_intro hpermits)
  · refine ((ends_run_of_not_permits command hpermits).imp fun _ _ hdone => hdone.elim).cut_imp ?_
    intro stop _ hstop
    exact iff_of_true hstop hpermits

end ChangeCommand

end CountedHandles
