import Rulebook.Filter.Engine
import Rulebook.Filter.Reader

/-!
# Running filters

A filter is read, its names are looked up, and it is run on a value. The first error is the answer. This is
the engine that is there if no other one is given; what is done with documents does not depend on which
filters it knows.
-/

namespace Rulebook.Filter

open Json (Value)

mutual

/-- Whether every name in a filter is known. -/
def isDefined : Filter → Bool
  | .identity => true
  | .literal _ => true
  | .call name arguments => name == "empty" && arguments.isEmpty && areDefined arguments
  | .part outer key => outer.isDefined && key.isDefined
  | .each outer => outer.isDefined
  | .negate outer => outer.isDefined
  | .pipe first second => first.isDefined && second.isDefined
  | .join first second => first.isDefined && second.isDefined

/-- Whether every name in some filters is known. -/
def areDefined : List Filter → Bool
  | [] => true
  | f :: rest => f.isDefined && areDefined rest

end

/-- The item at an index; a negative index counts from the end. -/
def itemAt (items : List Value) (i : Int) : Value :=
  let place := if i < 0 then i + items.length else i
  if place < 0 then .null else (items[place.toNat]?).getD .null

/-- The part of a value under a key or an index. What is not there is null. -/
def partOf : Value → Value → Except FilterError Value
  | .object members, .string key => .ok ((Association.lookup key members).getD .null)
  | .array items, .number (.int i) => .ok (itemAt items i)
  | _, _ => .error .failed

/-- All items or members of a value. -/
def spread : Value → Except FilterError (List Value)
  | .array items => .ok items
  | .object members => .ok (members.map Prod.snd)
  | _ => .error .failed

/-- The negative of a number. -/
def negative : Value → Except FilterError Value
  | .number (.int i) => .ok (.number (.int (-i)))
  | .number (.float x) => .ok (.number (.float { x with negative := !x.negative }))
  | _ => .error .failed

/-- What a step gives for every value of a list, in order. -/
def forEach (step : Value → Except FilterError (List Value)) :
    List Value → Except FilterError (List Value)
  | [] => .ok []
  | v :: rest => do
    let first ← step v
    let others ← forEach step rest
    .ok (first ++ others)

/-- Runs a filter whose names are known. -/
def run : Filter → Value → Except FilterError (List Value)
  | .identity, v => .ok [v]
  | .literal w, _ => .ok [w]
  | .call _ _, _ => .ok []
  | .part outer key, v => do
    let keys ← key.run v
    let outers ← outer.run v
    forEach (fun k => forEach (fun o => do return [← partOf o k]) outers) keys
  | .each outer, v => do forEach spread (← outer.run v)
  | .negate outer, v => do forEach (fun o => do return [← negative o]) (← outer.run v)
  | .pipe first second, v => do forEach second.run (← first.run v)
  | .join first second, v => do
    let firsts ← first.run v
    let seconds ← second.run v
    .ok (firsts ++ seconds)

/-- What the filter of a text gives for a value. -/
def apply (text : String) (v : Value) : Except FilterError (List Value) :=
  match ofText? text with
  | none => .error .malformed
  | some f => if f.isDefined then f.run v else .error .undefined

/-- The engine that runs these filters. -/
instance engine : FilterEngine where
  apply text v := (apply text v).mapError FilterError.message

end Rulebook.Filter
