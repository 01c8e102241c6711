import CountedHandles.Slot

/-!
# Banks of slots

A bank is a growing row of slots of one scheme. Requests append slots, move addresses between them
and look at them. A request that is refused or that panics leaves every slot as it was.
-/

namespace CountedHandles

/-- A row of slots of one scheme. -/
structure Bank where
  /-- How every slot of the bank keeps its address. -/
  scheme : Scheme
  /-- The slots in the order of their creation. -/
  slots : List Slot := []

namespace Bank

/-- What can be asked of a bank; slots are named by their position. -/
inductive Request where
  /-- Append a slot that holds null. -/
  | appendNull
  /-- Append the mark of a deleted bucket. -/
  | appendDeleted
  /-- Append a slot that holds an address. -/
  | append (address : Address)
  /-- Append the packed null address; only packed banks know it. -/
  | appendPackedZero
  /-- Append a packed address; only packed banks know it. -/
  | appendPacked (address : Address)
  /-- Put an address in a slot. -/
  | exchange (position : Nat) (address : Address)
  /-- Let two different slots change their contents. -/
  | swap (first second : Nat)
  /-- Compare two slots. -/
  | equal (first second : Nat)
  /-- Look at the address of a slot. -/
  | address (position : Nat)
  /-- Ask whether a slot holds null. -/
  | isNull (position : Nat)
  /-- Ask whether a slot holds the mark of a deleted bucket. -/
  | isDeleted (position : Nat)
  /-- Print a slot, on request with all digits of a whole address. -/
  | debug (position : Nat) (full : Bool)
  /-- Feed a slot to a hasher. -/
  | hash (position : Nat)

/-- What a bank answers. -/
inductive Answer where
  | done
  | address (address : Address)
  | flag (value : Bool)
  | text (text : String)
  | bytes (bytes : List UInt8)

/-- Why a request is not answered. -/
inductive Failure where
  /-- The request makes no sense for this bank. -/
  | refused
  /-- The request was stopped. -/
  | panicked (panic : Panic)

/-- A change of a bank that comes to an answer or fails; what it changed before stays changed. -/
abbrev Change := EStateM Failure Bank

/-- The slot at a position, which must exist. -/
def slotAt (position : Nat) : Change Slot := do
  match (← get).slots[position]? with
  | some slot => return slot
  | none => throw .refused

/-- Adds a slot at the end. -/
def push (bank : Bank) (slot : Slot) : Bank :=
  { bank with slots := bank.slots ++ [slot] }

/-- Puts another slot at a position. -/
def put (bank : Bank) (position : Nat) (slot : Slot) : Bank :=
  { bank with slots := bank.slots.set position slot }

/-- Adds a slot that holds a given address, if the scheme has room for it. -/
def appendAddress (address : Address) : Change Answer := do
  match Slot.ofAddress (← get).scheme address with
  | .ok slot => modify fun bank => bank.push slot
  | .error cause => throw (.panicked cause)
  return .done

/-- Adds a slot to a packed bank; a raw bank refuses that. -/
def onlyPacked (change : Change Answer) : Change Answer := do
  if (← get).scheme = .packed then change else throw .refused

/-- Puts an address in a slot and answers the old one. If that panics, the slot stays as the panic
leaves it. -/
def exchange (position : Nat) (address : Address) : Change Answer := do
  match Slot.exchange address (← slotAt position) with
  | .ok old slot =>
    modify fun bank => bank.put position slot
    return .address old
  | .error cause slot =>
    modify fun bank => bank.put position slot
    throw (.panicked cause)

/-- Lets two different slots change their contents. -/
def swap (first second : Nat) : Change Answer := do
  let a ← slotAt first
  let b ← slotAt second
  if first = second then throw .refused
  modify fun bank => (bank.put first b).put second a
  return .done

/-- Answers a question about one slot. -/
def look (position : Nat) (question : Slot → Answer) : Change Answer :=
  return question (← slotAt position)

/-- Follows a request. -/
def perform : Request → Change Answer
  | .appendNull => modifyGet fun bank => (.done, bank.push (Slot.null bank.scheme))
  | .appendDeleted => modifyGet fun bank => (.done, bank.push (Slot.deleted bank.scheme))
  | .append address => appendAddress address
  | .appendPackedZero => onlyPacked (modifyGet fun bank => (.done, bank.push (Slot.null .packed)))
  | .appendPacked address => onlyPacked (appendAddress address)
  | .exchange position address => exchange position address
  | .swap first second => swap first second
  | .equal first second => return .flag ((← slotAt first) == (← slotAt second))
  | .address position => look position fun slot => .address slot.address
  | .isNull position => look position fun slot => .flag slot.isNull
  | .isDeleted position => look position fun slot => .flag slot.isDeleted
  | .debug position full => look position fun slot =>
    .text (if full then slot.debugTextFull else slot.debugText)
  | .hash position => look position fun slot => .bytes slot.hashBytes

/-- What a request came to, and the addresses that the slots hold after it. -/
structure Step where
  /-- The answer, or why there is none. -/
  result : Except Failure Answer
  /-- The address of each slot. -/
  held : List Address

/-- Follows one request, which may be unreadable, and goes on from what it leaves behind. -/
def step (bank : Bank) (request : Option Request) : Step × Bank :=
  match request with
  | none => (⟨.error .refused, bank.slots.map Slot.address⟩, bank)
  | some request =>
    match perform request bank with
    | .ok answer after => (⟨.ok answer, after.slots.map Slot.address⟩, after)
    | .error failure after => (⟨.error failure, after.slots.map Slot.address⟩, after)

/-- Follows requests one after the other. -/
def run (bank : Bank) : List (Option Request) → List Step × Bank
  | [] => ([], bank)
  | request :: rest =>
    let (step, after) := bank.step request
    let (later, final) := run after rest
    (step :: later, final)

end Bank

end CountedHandles
