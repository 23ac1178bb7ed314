import Companion.Diagnostic
import Companion.Registry
import Companion.Symbol.Model

/-!
# Ancestors

The ancestors of a symbol are its base class, the base class of that, and so on. A chain in which a
full name comes back is an error. All ancestors are symbols of the model, so a chain without
repetition has no more of them than the model has symbols.
-/

namespace Companion

namespace Model

/-- The ancestors after `current`, where `seen` has the full names met so far. `fuel` bounds their
number: a longer chain repeats a name. -/
def ancestorsFrom (model : Model) (origin : String) :
    (fuel : Nat) → (seen : List String) → (current : Symbol) → Except GenerateError (List Symbol)
  | 0, _, _ => .error (.baseTypeCycle origin)
  | fuel + 1, seen, current =>
    match model.baseOf? current with
    | none => .ok []
    | some base =>
      if seen.contains base.fullName then .error (.baseTypeCycle origin)
      else do
        let rest ← model.ancestorsFrom origin fuel (base.fullName :: seen) base
        return base :: rest

/-- The ancestors of a symbol, nearest first. -/
def ancestors (model : Model) (symbol : Symbol) : Except GenerateError (List Symbol) :=
  model.ancestorsFrom symbol.fullName (model.size + 1) [symbol.fullName] symbol

end Model

/-- Ancestors that were asked for before, for a caller that asks often. An answer, once given, is
kept even if the model changes; an error is not. -/
abbrev ChainMemo := Registry TypeKey (List Symbol)

namespace ChainMemo

/-- The ancestors of a symbol, from the memo if it has them. -/
def ancestors (memo : ChainMemo) (model : Model) (symbol : Symbol) :
    Except GenerateError (List Symbol) × ChainMemo :=
  match memo.get? symbol.key with
  | some chain => (.ok chain, memo)
  | none =>
    match model.ancestors symbol with
    | .ok chain => (.ok chain, memo.insert symbol.key chain)
    | .error e => (.error e, memo)

end ChainMemo

end Companion
