/-
Module: TallyKeep.Adapters.ConcreteDescriptors
Layer: Adapters
Purpose: Key expressions, and the concrete descriptor that bitcoind writes for the script of a
  scanned coin: every key with its origin and the path that it was derived by.
Trusted boundary: statement of bitcoind's `desc` annotation, as the docstring of
  `_parse_derivation_index` shows it.  Keys and fingerprints are bitcoind's to compute; that a key
  without an origin of its own may be written with its bare fingerprint makes no difference
Main exports: Script.keys, Descriptor.keys, PathStep, KeyOrigin, KeyExpression,
  KeyExpression.shownIndex, leadingIndex, Expresses, PublicKey, NodeKeys, NodeKeys.Writes
-/
import TallyKeep.Adapters.DescriptorTrees

namespace TallyKeep

open CallText
open DescriptorPatterns

/-! ### Keys of a tree -/

mutual

/-- The keys of a script, in the order of its text. -/
def Script.keys : Script → List Operand
  | .constant _ => []
  | .key _ key => [key]
  | .timelock _ _ => []
  | .hash _ _ => []
  | .multi _ _ keys => keys
  | .wrap _ body => body.keys
  | .and _ first second => first.keys ++ second.keys
  | .andor condition first second => condition.keys ++ (first.keys ++ second.keys)
  | .or _ first second => first.keys ++ second.keys
  | .thresh _ subs => subs.keys

def Scripts.keys : Scripts → List Operand
  | .none => []
  | .more first rest => first.keys ++ rest.keys

end

mutual

/-- The digests of a script. -/
def Script.digests : Script → List Operand
  | .constant _ => []
  | .key _ _ => []
  | .timelock _ _ => []
  | .hash _ digest => [digest]
  | .multi _ _ _ => []
  | .wrap _ body => body.digests
  | .and _ first second => first.digests ++ second.digests
  | .andor condition first second => condition.digests ++ (first.digests ++ second.digests)
  | .or _ first second => first.digests ++ second.digests
  | .thresh _ subs => subs.digests

def Scripts.digests : Scripts → List Operand
  | .none => []
  | .more first rest => first.digests ++ rest.digests

end

namespace TapTree

def keys : TapTree → List Operand
  | leaf script => script.keys
  | branch left right => left.keys ++ right.keys

def digests : TapTree → List Operand
  | leaf script => script.digests
  | branch left right => left.digests ++ right.digests

end TapTree

namespace Descriptor

/-- The keys of a descriptor, in the order of its text. -/
def keys : Descriptor → List Operand
  | pk key => [key]
  | multi _ _ keys => keys
  | pkh key => [key]
  | wpkh key => [key]
  | shWpkh key => [key]
  | wsh script => script.keys
  | sh script => script.keys
  | shWsh script => script.keys
  | tr key tree => key :: (tree.map TapTree.keys).getD []

/-- The digests of a descriptor. -/
def digests : Descriptor → List Operand
  | wsh script => script.digests
  | sh script => script.digests
  | shWsh script => script.digests
  | tr _ (some tree) => tree.digests
  | _ => []

end Descriptor

/-! ### Key expressions -/

/-- A step of a derivation path. -/
structure PathStep where
  number : Nat
  hardened : Bool
deriving DecidableEq

/-- The number of a step that is not hardened. -/
def PathStep.index? (step : PathStep) : Option Nat :=
  if step.hardened then none else some step.number

/-- The number that a path ends with, unless its last step is a hardened one. -/
def endIndex (path : List PathStep) : Option Nat := path.getLast?.bind PathStep.index?

/-- How a step is written, with a mark for a hardened one. -/
def PathStep.text (mark : Char) (step : PathStep) : List Char :=
  '/' :: (Nat.toDigits 10 step.number ++ if step.hardened then [mark] else [])

/-- Where a key comes from: the fingerprint of a master key, and a path. -/
structure KeyOrigin where
  fingerprint : List Char
  path : List PathStep
  hex : ∀ c ∈ fingerprint, isHexDigit c = true

/-- `[fingerprint/path]`. -/
def KeyOrigin.text (mark : Char) (origin : KeyOrigin) : List Char :=
  '[' :: (origin.fingerprint ++ (origin.path.flatMap (PathStep.text mark) ++ [']']))

/-- A key of a descriptor: its origin, the key itself, the steps to derive by, and for a ranged key
    whether the last step, which is the index, is a hardened one. -/
structure KeyExpression where
  origin : Option KeyOrigin
  key : Operand
  steps : List PathStep
  wildcard : Option Bool

namespace KeyExpression

/-- The wildcard of a ranged key. -/
def wildcardText (mark : Char) (key : KeyExpression) : List Char :=
  match key.wildcard with
  | none => []
  | some hardened => '/' :: '*' :: if hardened then [mark] else []

/-- How the key is written in the descriptor of a wallet. -/
def text (mark : Char) (key : KeyExpression) : List Char :=
  (key.origin.map (KeyOrigin.text mark)).getD [] ++
    (key.key.text ++ (key.steps.flatMap (PathStep.text mark) ++ key.wildcardText mark))

/-- The steps that lead to the key at an index. -/
def derivedSteps (key : KeyExpression) (index : Nat) : List PathStep :=
  key.steps ++ key.wildcard.toList.map (PathStep.mk index)

/-- The path that is shown for the key at an index: the steps of the origin, then the derived
    ones. -/
def shownPath (key : KeyExpression) (index : Nat) : List PathStep :=
  (key.origin.map KeyOrigin.path).getD [] ++ key.derivedSteps index

/-- The number that the shown path ends with. -/
def shownIndex (index : Nat) (key : KeyExpression) : Option Nat := endIndex (key.shownPath index)

end KeyExpression

/-- The number at the end of the path of the first key that has one. -/
def leadingIndex (keys : List KeyExpression) (index : Nat) : Option Nat :=
  keys.findSome? (KeyExpression.shownIndex index)

/-- The expression of a wallet is the text of a descriptor with these keys. -/
def Expresses (keys : List KeyExpression) (expression : String) : Prop :=
  ∃ (tree : Descriptor) (checksum : Option Operand) (mark : Char),
    (mark = 'h' ∨ mark = '\x27') ∧ expression = tree.text checksum ∧
      tree.keys.map Operand.text = keys.map (KeyExpression.text mark)

/-! ### What bitcoind writes -/

/-- A public key, in hexadecimal. -/
structure PublicKey where
  digits : List Char
  nonempty : digits ≠ []
  hex : ∀ c ∈ digits, isHexDigit c = true

/-- What bitcoind computes of keys, and its mark for hardened steps. -/
structure NodeKeys where
  fingerprint : Operand → List Char
  hex : ∀ key, ∀ c ∈ fingerprint key, isHexDigit c = true
  publicKey : KeyExpression → Nat → PublicKey
  mark : Char
  marks : mark = 'h' ∨ mark = '\x27'

namespace NodeKeys

variable (node : NodeKeys)

/-- The origin of the key at an index: a derived key is traced to its origin or to the key that it
    is derived from, and a key without derivation keeps the origin given. -/
def reportedOrigin (key : KeyExpression) (index : Nat) : Option KeyOrigin :=
  match key.origin with
  | some origin => some { origin with path := origin.path ++ key.derivedSteps index }
  | none =>
      if key.derivedSteps index = [] then none
      else some ⟨node.fingerprint key.key, key.derivedSteps index, node.hex key.key⟩

/-- `[fingerprint/path]pubkey`. -/
def keyText (index : Nat) (key : KeyExpression) : List Char :=
  ((node.reportedOrigin key index).map (KeyOrigin.text node.mark)).getD [] ++
    (node.publicKey key index).digits

/-- The text is that of a descriptor with some keys at an index, in the order of the text. -/
def Writes (keys : List KeyExpression) (index : Nat) (text : String) : Prop :=
  ∃ (tree : Descriptor) (checksum : Option Operand),
    text = tree.text checksum ∧
      tree.keys.map Operand.text = keys.map (node.keyText index) ∧
      (∀ digest ∈ tree.digests, '[' ∉ digest.text) ∧ ∀ c ∈ checksum, '[' ∉ c.text

end NodeKeys

end TallyKeep
