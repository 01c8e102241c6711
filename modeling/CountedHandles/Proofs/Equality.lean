import CountedHandles.Proofs.Runs

/-!
# Equality of handles

Handles are compared by address, whatever their form and scheme. Where every handle is null, a mark
of a deleted bucket or bound to a referent that exists, the address tells just which of these it is:
handles are equal exactly when they stand for the same, and the marks of the two schemes are two
things.
-/

namespace CountedHandles

/-- What a handle stands for. -/
inductive Meaning where
  /-- Nothing at all. -/
  | nothing
  /-- A deleted bucket of handles of one scheme. -/
  | deletedBucket (scheme : Scheme)
  /-- The referent with a name. -/
  | referent (name : String)
deriving DecidableEq

/-- What a handle stands for in a store. -/
def Store.meaning (store : Store) (handle : Handle) : Meaning :=
  if handle.slot.isDeleted then .deletedBucket handle.scheme
  else (store.targetOf? handle).elim .nothing fun referent => .referent referent.name

/-- The address that is held by the handles that stand for something. -/
def Store.addressOf? (store : Store) : Meaning → Option Address
  | .nothing => some Address.null
  | .deletedBucket scheme => some (Slot.deleted scheme).address
  | .referent name => (store.referent? name).map Referent.address

/-- The marks of different schemes are different addresses. -/
theorem Slot.address_deleted_inj {a b : Scheme} :
    (Slot.deleted a).address = (Slot.deleted b).address ↔ a = b := by
  cases a <;> cases b <;> decide

namespace Handle

variable {a b c : Handle}

/-- Handles are equal exactly when they hold one address. -/
theorem equal_iff : a.equal b = true ↔ a.address = b.address :=
  beq_iff_eq

/-- Every handle equals itself. -/
theorem equal_refl (a : Handle) : a.equal a = true :=
  equal_iff.mpr rfl

/-- It does not matter which of two handles is compared with the other. -/
theorem equal_comm (a b : Handle) : a.equal b = b.equal a :=
  Bool.eq_iff_iff.mpr (equal_iff.trans (eq_comm.trans equal_iff.symm))

/-- Handles that equal a third one equal each other. -/
theorem equal_trans (hab : a.equal b = true) (hbc : b.equal c = true) : a.equal c = true :=
  equal_iff.mpr ((equal_iff.mp hab).trans (equal_iff.mp hbc))

/-- Just the null handles equal a null handle. -/
theorem equal_iff_of_isNull (h : a.slot.isNull = true) :
    a.equal b = true ↔ b.slot.isNull = true := by
  rw [equal_iff, Slot.isNull_iff, address, Slot.isNull_iff.mp h]
  exact eq_comm

end Handle

namespace Store

variable {store : Store} {handle : Handle}

/-- A null handle stands for nothing. -/
theorem meaning_of_isNull (h : handle.slot.isNull = true) : store.meaning handle = .nothing := by
  have hdeleted : handle.slot.isDeleted = false := by
    rw [← Bool.not_eq_true]
    intro hdeleted
    rw [Slot.not_isNull_of_isDeleted hdeleted] at h
    cases h
  simp [meaning, hdeleted, targetOf?, Slot.target?_eq_none_iff.mpr (Or.inl h)]

/-- A mark stands for a deleted bucket. -/
theorem meaning_of_isDeleted (h : handle.slot.isDeleted = true) :
    store.meaning handle = .deletedBucket handle.scheme :=
  if_pos h

end Store

namespace Store.WellFormed

variable {store : Store} {handle a b : Handle} {referent other : Referent}

/-- A handle is bound to the referent at its address. -/
theorem targetOf?_eq_some_iff (h : store.WellFormed) :
    store.targetOf? handle = some referent ↔
      referent ∈ store.referents ∧ referent.address = handle.address := by
  rw [← referentAt?_eq_some_iff h.nodup_sites]
  constructor
  · intro htarget
    obtain ⟨address, haddress, hat⟩ := Option.bind_eq_some_iff.mp htarget
    rw [Handle.address, Slot.address_of_target? haddress]
    exact hat
  · intro hat
    obtain ⟨hmem, haddress⟩ := (referentAt?_eq_some_iff h.nodup_sites).mp hat
    have hsite : handle.slot.address.isSite = true :=
      h.isSite _ (List.mem_map.mpr ⟨referent, hmem, haddress⟩)
    rw [targetOf?, Slot.target?_of_isSite hsite, Option.bind_some]
    exact hat

/-- Every handle is null, a mark of a deleted bucket or bound. -/
theorem vacant_or_bound (h : store.WellFormed) (hmem : handle ∈ store.handles) :
    handle.slot.isNull = true ∨ handle.slot.isDeleted = true ∨
      ∃ referent, store.targetOf? handle = some referent := by
  rcases h.settled handle hmem with ⟨-, hvacant⟩ | hsite
  · rcases Slot.target?_eq_none_iff.mp hvacant with hnull | hdeleted
    · exact Or.inl hnull
    · exact Or.inr (Or.inl hdeleted)
  · obtain ⟨referent, hreferent, haddress⟩ := List.mem_map.mp hsite
    exact Or.inr (Or.inr ⟨referent, h.targetOf?_eq_some_iff.mpr ⟨hreferent, haddress⟩⟩)

/-- A bound handle holds a site of a referent. -/
theorem isSite_of_targetOf? (h : store.WellFormed)
    (htarget : store.targetOf? handle = some referent) : handle.slot.address.isSite = true := by
  obtain ⟨hmem, haddress⟩ := h.targetOf?_eq_some_iff.mp htarget
  exact h.isSite _ (List.mem_map.mpr ⟨referent, hmem, haddress⟩)

/-- A bound handle is no mark of a deleted bucket. -/
theorem isDeleted_of_targetOf? (h : store.WellFormed)
    (htarget : store.targetOf? handle = some referent) : handle.slot.isDeleted = false := by
  rw [← Bool.not_eq_true, Slot.isDeleted_iff]
  exact Slot.ne_deleted_of_isSite (h.isSite_of_targetOf? htarget) _

/-- Bound handles are equal exactly when they are bound to the same referent. -/
theorem equal_iff_of_targetOf? (h : store.WellFormed) (ha : store.targetOf? a = some referent)
    (hb : store.targetOf? b = some other) : a.equal b = true ↔ referent = other := by
  obtain ⟨hreferent, haddress⟩ := h.targetOf?_eq_some_iff.mp ha
  obtain ⟨hother, haddress'⟩ := h.targetOf?_eq_some_iff.mp hb
  rw [Handle.equal_iff, ← haddress, ← haddress']
  exact ⟨List.inj_on_of_nodup_map h.nodup_sites hreferent hother, congrArg Referent.address⟩

/-- Just the marks of deleted buckets of the same scheme equal such a mark. -/
theorem equal_iff_of_isDeleted (h : store.WellFormed) (hb : b ∈ store.handles)
    (hdeleted : a.slot.isDeleted = true) :
    a.equal b = true ↔ b.slot.isDeleted = true ∧ b.scheme = a.scheme := by
  rw [Handle.equal_iff, Handle.address, Slot.isDeleted_iff.mp hdeleted]
  constructor
  · intro heq
    have hmark : (Slot.deleted a.scheme).address = b.slot.address := heq
    rcases h.vacant_or_bound hb with hnull | hmarked | ⟨referent, htarget⟩
    · have hlarge := Slot.reserved_le_address_deleted a.scheme
      rw [hmark, Slot.isNull_iff.mp hnull] at hlarge
      exact absurd hlarge (by decide)
    · rw [Slot.isDeleted_iff.mp hmarked, Slot.address_deleted_inj] at hmark
      exact ⟨hmarked, hmark.symm⟩
    · exact absurd hmark.symm
        (Slot.ne_deleted_of_isSite (h.isSite_of_targetOf? htarget) a.scheme)
  · rintro ⟨hmarked, hscheme⟩
    have haddress : b.address = (Slot.deleted b.scheme).address := Slot.isDeleted_iff.mp hmarked
    rw [haddress, hscheme]
    rfl

/-- A bound handle stands for its referent. -/
theorem meaning_of_targetOf? (h : store.WellFormed)
    (htarget : store.targetOf? handle = some referent) :
    store.meaning handle = .referent referent.name := by
  simp [meaning, h.isDeleted_of_targetOf? htarget, htarget]

/-- What a handle stands for determines its address. -/
theorem addressOf?_meaning (h : store.WellFormed) (hmem : handle ∈ store.handles) :
    store.addressOf? (store.meaning handle) = some handle.address := by
  rcases h.vacant_or_bound hmem with hnull | hdeleted | ⟨referent, htarget⟩
  · rw [meaning_of_isNull hnull, addressOf?, Handle.address, Slot.isNull_iff.mp hnull]
  · rw [meaning_of_isDeleted hdeleted, addressOf?, Handle.address, Slot.isDeleted_iff.mp hdeleted]
    rfl
  · obtain ⟨hreferent, haddress⟩ := h.targetOf?_eq_some_iff.mp htarget
    rw [h.meaning_of_targetOf? htarget, addressOf?, h.referent?_of_mem hreferent,
      Option.map_some, haddress]

/-- Handles are equal exactly when they stand for the same. -/
theorem equal_iff_meaning_eq (h : store.WellFormed) (ha : a ∈ store.handles)
    (hb : b ∈ store.handles) :
    a.equal b = true ↔ store.meaning a = store.meaning b := by
  constructor
  · intro hequal
    rcases h.vacant_or_bound ha with hnull | hdeleted | ⟨referent, htarget⟩
    · rw [meaning_of_isNull hnull, meaning_of_isNull ((Handle.equal_iff_of_isNull hnull).mp hequal)]
    · obtain ⟨hmarked, hscheme⟩ := (h.equal_iff_of_isDeleted hb hdeleted).mp hequal
      rw [meaning_of_isDeleted hdeleted, meaning_of_isDeleted hmarked, hscheme]
    · obtain ⟨hreferent, haddress⟩ := h.targetOf?_eq_some_iff.mp htarget
      have hbound : store.targetOf? b = some referent :=
        h.targetOf?_eq_some_iff.mpr ⟨hreferent, haddress.trans (Handle.equal_iff.mp hequal)⟩
      rw [h.meaning_of_targetOf? htarget, h.meaning_of_targetOf? hbound]
  · intro hmeaning
    have haddress := h.addressOf?_meaning ha
    rw [hmeaning, h.addressOf?_meaning hb] at haddress
    exact Handle.equal_iff.mpr (Option.some.inj haddress).symm

end Store.WellFormed

namespace LookCommand

variable (config : Config) {session : Session} {name first second : String} {a b : Handle}

/-- A comparison answers whether two handles are equal. -/
theorem run_compare (ha : session.handle? first = some a) (hb : session.handle? second = some b)
    (differ : Bool) :
    run config (.compare first second differ) session =
      .ok (.flag (a.equal b != differ)) session := by
  simp only [run, Turn.run_bind, Turn.run_handle ha, Turn.run_handle hb]
  rfl

/-- A comparison with an address answers whether the handle holds it. -/
theorem run_compareAddress (ha : session.handle? name = some a) (address : Address) :
    run config (.compareAddress name (.address address)) session =
      .ok (.flag (a.address == address)) session := by
  have hresolve : Turn.resolve (.address address) session = .ok address session := rfl
  simp only [run, Turn.run_bind, hresolve, Turn.run_handle ha]
  rfl

/-- A handle is hashed by its bytes. -/
theorem run_hash (ha : session.handle? name = some a) :
    run config (.hash name) session = .ok (.bytes a.hashBytes) session := by
  simp only [run, Turn.run_bind, Turn.run_handle ha]
  rfl

end LookCommand

/-- A turn that only answers is a step that only answers. -/
theorem Session.step_of_answer {config : Config} {session : Session} {turn : Turn Answer}
    {answer : Answer} (h : turn session.clearEvents = .ok answer session.clearEvents) :
    session.step config turn =
      .ok (session.clearEvents.completed (.answered answer), session.clearEvents) := by
  simp only [step, h]

namespace Program

variable {program : Program} {steps : List Step} {session : Session}

/-- Equality of handles is one relation for all forms and schemes. Wherever a program gets that
calls no referent directly, every handle equals itself, equality goes both ways and is handed on,
and handles are equal exactly if they are hashed alike, if one holds the address that the other
holds, and if they stand for the same: bound handles for their referents, null handles for nothing,
deleted handles for buckets of their scheme. This is what the commands that compare and hash answer,
and they change nothing. -/
theorem equality_consistent (hcalls : program.LeavesCalls)
    (hbody : program.body = (steps, .ok session)) :
    (∀ a ∈ session.store.handles, a.equal a = true) ∧
    (∀ a ∈ session.store.handles, ∀ b ∈ session.store.handles, a.equal b = b.equal a) ∧
    (∀ a ∈ session.store.handles, ∀ b ∈ session.store.handles, ∀ c ∈ session.store.handles,
      a.equal b = true → b.equal c = true → a.equal c = true) ∧
    (∀ a ∈ session.store.handles, ∀ b ∈ session.store.handles,
      (a.equal b = true ↔ a.hashBytes = b.hashBytes) ∧
      (a.equal b = true ↔ a.address = b.address) ∧
      (a.equal b = true ↔ session.store.meaning a = session.store.meaning b) ∧
      (∀ r q, session.store.targetOf? a = some r → session.store.targetOf? b = some q →
        (a.equal b = true ↔ r = q)) ∧
      (a.slot.isNull = true → (a.equal b = true ↔ b.slot.isNull = true)) ∧
      (a.slot.isDeleted = true →
        (a.equal b = true ↔ b.slot.isDeleted = true ∧ b.scheme = a.scheme) ∧
        (b.slot.isNull = true ∨ (∃ q, session.store.targetOf? b = some q) →
          a.equal b = false))) ∧
    (∀ first second a b, session.handle? first = some a → session.handle? second = some b →
      a ∈ session.store.handles ∧ b ∈ session.store.handles ∧
      (∀ differ, session.step program.config
          (Command.run program.config (.look (.compare first second differ))) =
        .ok (session.clearEvents.completed (.answered (.flag (a.equal b != differ))),
          session.clearEvents)) ∧
      session.step program.config
          (Command.run program.config (.look (.compareAddress first (.address b.address)))) =
        .ok (session.clearEvents.completed (.answered (.flag (a.equal b))), session.clearEvents) ∧
      session.step program.config (Command.run program.config (.look (.hash first))) =
        .ok (session.clearEvents.completed (.answered (.bytes a.hashBytes)),
          session.clearEvents)) := by
  have hwell := (reached_of_body hcalls hbody).sound.consistent.toWellFormed
  refine ⟨fun a _ => a.equal_refl, fun a _ b _ => a.equal_comm b,
    fun _ _ _ _ _ _ => Handle.equal_trans, fun a ha b hb => ?_,
    fun first second a b hfirst hsecond => ?_⟩
  · refine ⟨Handle.equal_iff_hashBytes_eq, Handle.equal_iff, hwell.equal_iff_meaning_eq ha hb,
      fun r q => hwell.equal_iff_of_targetOf?, Handle.equal_iff_of_isNull, fun hdeleted => ?_⟩
    have hmarks := hwell.equal_iff_of_isDeleted hb hdeleted
    refine ⟨hmarks, fun hother => ?_⟩
    rw [← Bool.not_eq_true, hmarks]
    rintro ⟨hmarked, -⟩
    rcases hother with hnull | ⟨q, htarget⟩
    · rw [Slot.not_isNull_of_isDeleted hmarked] at hnull
      cases hnull
    · rw [hwell.isDeleted_of_targetOf? htarget] at hmarked
      cases hmarked
  · have ha : session.clearEvents.handle? first = some a := hfirst
    have hb : session.clearEvents.handle? second = some b := hsecond
    obtain ⟨s, -, hs⟩ := Option.bind_eq_some_iff.mp hfirst
    obtain ⟨t, -, ht⟩ := Option.bind_eq_some_iff.mp hsecond
    exact ⟨Store.mem_of_handle? hs, Store.mem_of_handle? ht,
      fun differ =>
        Session.step_of_answer (LookCommand.run_compare program.config ha hb differ),
      Session.step_of_answer (LookCommand.run_compareAddress program.config ha b.address),
      Session.step_of_answer (LookCommand.run_hash program.config ha)⟩

/-- A program with a packed pointer and a raw reference to one referent and with pointers of both
schemes that are marks of deleted buckets. -/
def equalityExample : Program where
  config := ⟨⟨true, true⟩, .ordinary, .off⟩
  commands :=
    [.onReferent (.create "a" 1 none), .onHandle (.hold .pointer "p" .packed "a"),
      .onHandle (.hold .reference "r" .raw "a"), .onHandle (.deleted "d" .packed),
      .onHandle (.deleted "e" .raw)]

/-- After that program the pointer and the reference are equal, as the command that compares them
answers, while the marks of the two schemes are not. -/
theorem equality_consistent_equalityExample :
    equalityExample.body = (equalityExample.body.1, .ok equalityExample.final) ∧
      ∃ p r d e, equalityExample.final.handle? "p" = some p ∧
        equalityExample.final.handle? "r" = some r ∧
        equalityExample.final.handle? "d" = some d ∧
        equalityExample.final.handle? "e" = some e ∧
        p.equal r = true ∧ p.hashBytes = r.hashBytes ∧
        equalityExample.final.store.meaning p = .referent "a" ∧
        d.equal e = false ∧ d.equal p = false ∧
        equalityExample.final.step equalityExample.config
            (Command.run equalityExample.config (.look (.compare "p" "r" false))) =
          .ok (equalityExample.final.clearEvents.completed (.answered (.flag true)),
            equalityExample.final.clearEvents) := by
  have hcalls : equalityExample.LeavesCalls := by
    simp [LeavesCalls, equalityExample, Command.isCall]
  have hbody : equalityExample.body = (equalityExample.body.1, .ok equalityExample.final) := rfl
  obtain ⟨-, -, -, hpairs, hcommands⟩ := equality_consistent hcalls hbody
  have hp : equalityExample.final.handle? "p" = some ⟨1, .pointer, .packed
    (SixBytes.truncate 0x100000000)⟩ := rfl
  have hr : equalityExample.final.handle? "r" = some ⟨2, .reference, .raw 0x100000000⟩ := rfl
  have hd : equalityExample.final.handle? "d" = some ⟨3, .pointer, Slot.deleted .packed⟩ := rfl
  have he : equalityExample.final.handle? "e" = some ⟨4, .pointer, Slot.deleted .raw⟩ := rfl
  obtain ⟨hpmem, hrmem, hcompare, -⟩ := hcommands "p" "r" _ _ hp hr
  obtain ⟨hdmem, hemem, -⟩ := hcommands "d" "e" _ _ hd he
  obtain ⟨hhash, -, hmeaning, hbound, -⟩ := hpairs _ hpmem _ hrmem
  have hequal := (hbound _ _ rfl rfl).mpr rfl
  obtain ⟨-, -, -, -, -, hmarks⟩ := hpairs _ hdmem _ hemem
  obtain ⟨-, -, -, -, -, hmark⟩ := hpairs _ hdmem _ hpmem
  refine ⟨hbody, _, _, _, _, hp, hr, hd, he, hequal, hhash.mp hequal, rfl, ?_,
    (hmark rfl).2 (Or.inr ⟨_, rfl⟩), ?_⟩
  · rw [← Bool.not_eq_true, (hmarks rfl).1]
    rintro ⟨-, hscheme⟩
    cases hscheme
  · rw [hcompare false, hequal]
    rfl

end Program

end CountedHandles
