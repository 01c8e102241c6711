import CountedHandles.Address.Site
import CountedHandles.Answer
import CountedHandles.Command
import CountedHandles.Referent.Destroy
import CountedHandles.Referent.Text

/-!
# Commands on referents

A referent gets a name that none had before and a free site of the arena. It is destroyed only if
its count covers every handle that holds it, since otherwise a handle could outlive it unnoticed.
-/

namespace CountedHandles.ReferentCommand

open Turn

/-- Creates a referent. -/
def runCreate (config : Config) (name : String) (value : Int64) (address? : Option Address) :
    Turn Answer := do
  require (!Address.opensLiteral name) .malformed
  let session ← get
  require (!session.created.contains name) .nameTaken
  let address := address?.getD (Address.defaultSite session.created.length)
  require (config.kind.offers address && (session.store.referentAt? address).isNone) .badAddress
  set { session with
    store := session.store.addReferent name address value
    created := session.created ++ [name] }
  return .nothing

/-- Destroys a referent. A count below the number of holders is refused here and not by the referent
itself; this never happens unless direct calls have lowered a count. -/
def runDestroy (config : Config) (name : String) : Turn Answer := do
  let referent ← referent name
  let holders := (← get).store.holders referent.address
  require (holders.length ≤ referent.count) .dangerous
  perform (Referent.destroy config referent)
  return .nothing

/-- The diagnostic texts of a registered handle. -/
def provenanceRow (entry : Serial × Provenance) : List String :=
  [entry.1.text, (Referent.serialTerm entry.1).line, (Referent.provenanceTerm entry.2).line]

/-- Runs a command on referents. -/
def run (config : Config) : ReferentCommand → Turn Answer
  | .create name value address? => runCreate config name value address?
  | .destroy name => runDestroy config name
  | .roster name => do
    let referent ← referent name
    return (config.shownRoster? referent).elim .nothing .registrations
  | .provenances name => do
    require config.build.tracking .untracked
    let referent ← referent name
    return .rows (referent.roster.listing.map provenanceRow)
  | .printCounter name => do
    let referent ← referent name
    require (referent.roster.size ≤ 1) .unordered
    let term := referent.counterTerm config.build.tracking
    return .texts [term.line, term.blockText]
  | .attach name handleName => do
    let referent ← referent name
    let handle ← handle handleName
    freeName handleName
    modify fun session => { session with
      store := session.store.updateReferent referent.name fun owner =>
        { owner with links := owner.links ++ [handle.serial] } }
    return .nothing
  | .detach handleName name index => do
    let referent ← referent name
    match referent.links[index]? with
    | none => refuse .badIndex
    | some serial =>
      modify fun session => { session with
        store := session.store.updateReferent referent.name fun owner =>
          { owner with links := owner.links.eraseIdx index } }
      keep config handleName serial
      return .nothing

end CountedHandles.ReferentCommand
