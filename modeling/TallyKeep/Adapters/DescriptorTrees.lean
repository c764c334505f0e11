/-
Module: TallyKeep.Adapters.DescriptorTrees
Layer: Adapters
Purpose: Descriptors and miniscript as trees: their fragments, their text in standard form, the type
  a descriptor library reports for them, and the accept set of vaults.
Trusted boundary: statement of the descriptor language and of the accept set in
  `specs/concerns/classification.md`.  Trees need not be well typed
Main exports: Operand, Fragment, Script, TapTree, Descriptor, Descriptor.text, Descriptor.fragments,
  Descriptor.timelocks, Descriptor.SinglePath, Descriptor.descType, AcceptSet
-/
import TallyKeep.Adapters.DescriptorParsing
import TallyKeep.Library.CallText

namespace TallyKeep

open CallText

/-! ### Fragments -/

/-- A character of keys and digests. -/
def isOperandChar (c : Char) : Bool :=
  c.isAlphanum || decide (c ∈ ['[', ']', '/', '*', '\x27', '<', ';', '>'])

/-- A key expression or a digest, as it is written. -/
structure Operand where
  text : List Char
  legal : ∀ c ∈ text, isOperandChar c = true
deriving DecidableEq

inductive KeyFragment where
  | pk
  | pkh
  | pkK
  | pkH
deriving Repr, DecidableEq

inductive HashFragment where
  | sha256
  | hash256
  | ripemd160
  | hash160
deriving Repr, DecidableEq

inductive MultiFragment where
  | multi
  | sortedMulti
  | multiA
  | sortedMultiA
deriving Repr, DecidableEq

inductive AndFragment where
  | andV
  | andB
  | andN
deriving Repr, DecidableEq

inductive OrFragment where
  | orB
  | orC
  | orD
  | orI
deriving Repr, DecidableEq

inductive Wrapper where
  | a
  | s
  | c
  | d
  | v
  | j
  | n
  | t
  | l
  | u
deriving Repr, DecidableEq

/-- A fragment of a script that is written as a call. -/
inductive Fragment where
  | key (kind : KeyFragment)
  | timelock (kind : TimelockKind) (value : Nat)
  | hash (kind : HashFragment)
  | multi (kind : MultiFragment) (threshold : Nat)
  | and (kind : AndFragment)
  | andor
  | or (kind : OrFragment)
  | thresh
deriving Repr, DecidableEq

/-- The name a fragment is written with. -/
def Fragment.name : Fragment → String
  | key .pk => "pk"
  | key .pkh => "pkh"
  | key .pkK => "pk_k"
  | key .pkH => "pk_h"
  | timelock .cltv _ => "after"
  | timelock .csv _ => "older"
  | hash .sha256 => "sha256"
  | hash .hash256 => "hash256"
  | hash .ripemd160 => "ripemd160"
  | hash .hash160 => "hash160"
  | multi .multi _ => "multi"
  | multi .sortedMulti _ => "sortedmulti"
  | multi .multiA _ => "multi_a"
  | multi .sortedMultiA _ => "sortedmulti_a"
  | and .andV => "and_v"
  | and .andB => "and_b"
  | and .andN => "and_n"
  | andor => "andor"
  | or .orB => "or_b"
  | or .orC => "or_c"
  | or .orD => "or_d"
  | or .orI => "or_i"
  | thresh => "thresh"

/-- The timelock a fragment is. -/
def Fragment.timelock? : Fragment → Option (TimelockKind × Nat)
  | timelock kind value => some (kind, value)
  | _ => none

/-- Neither a branch nor a hash-lock: `and_n(X,Z)` has no second branch. -/
def Fragment.isStraight : Fragment → Bool
  | or _ => false
  | andor => false
  | thresh => false
  | hash _ => false
  | _ => true

def Wrapper.letter : Wrapper → Char
  | a => 'a'
  | s => 's'
  | c => 'c'
  | d => 'd'
  | v => 'v'
  | j => 'j'
  | n => 'n'
  | t => 't'
  | l => 'l'
  | u => 'u'

/-! ### Scripts -/

mutual

/-- A miniscript expression. -/
inductive Script where
  | constant (value : Bool)
  | key (kind : KeyFragment) (key : Operand)
  | timelock (kind : TimelockKind) (value : Nat)
  | hash (kind : HashFragment) (digest : Operand)
  | multi (kind : MultiFragment) (threshold : Nat) (keys : List Operand)
  | wrap (wrapper : Wrapper) (body : Script)
  | and (kind : AndFragment) (first second : Script)
  | andor (condition first second : Script)
  | or (kind : OrFragment) (first second : Script)
  | thresh (threshold : Nat) (subs : Scripts)

/-- The expressions under a `thresh`. -/
inductive Scripts where
  | none
  | more (first : Script) (rest : Scripts)

end

/-- A number as it is written. -/
def decimal (n : Nat) : Expr := .atom (Nat.toDigits 10 n)

/-- A call under the name of a fragment. -/
def Fragment.call (fragment : Fragment) (argument : Expr) : Expr :=
  .call fragment.name.toList argument

/-- Wrappers stand together before one colon. -/
def Wrapper.before (wrapper : Wrapper) : Expr → Expr
  | .prefixed letters body => .prefixed (wrapper.letter :: letters) body
  | body => .prefixed [wrapper.letter] body

/-- A threshold and keys. -/
def keyList (threshold : Nat) (keys : List Operand) : Expr :=
  .pair (decimal threshold) (.atom ([','].intercalate (keys.map Operand.text)))

mutual

/-- A script as an expression of calls. -/
def Script.expr : Script → Expr
  | .constant value => .atom [if value then '1' else '0']
  | .key kind key => (Fragment.key kind).call (.atom key.text)
  | .timelock kind value => (Fragment.timelock kind value).call (decimal value)
  | .hash kind digest => (Fragment.hash kind).call (.atom digest.text)
  | .multi kind threshold keys => (Fragment.multi kind threshold).call (keyList threshold keys)
  | .wrap wrapper body => wrapper.before body.expr
  | .and kind first second => (Fragment.and kind).call (.pair first.expr second.expr)
  | .andor condition first second =>
      Fragment.andor.call (.pair condition.expr (.pair first.expr second.expr))
  | .or kind first second => (Fragment.or kind).call (.pair first.expr second.expr)
  | .thresh threshold subs => Fragment.thresh.call (subs.behind (decimal threshold))

/-- Some scripts behind an expression, each after a comma. -/
def Scripts.behind : Scripts → Expr → Expr
  | .none, e => e
  | .more first rest, e => rest.behind (.pair e first.expr)

end

mutual

/-- The fragments of a script, in the order of its text. -/
def Script.fragments : Script → List Fragment
  | .constant _ => []
  | .key kind _ => [.key kind]
  | .timelock kind value => [.timelock kind value]
  | .hash kind _ => [.hash kind]
  | .multi kind threshold _ => [.multi kind threshold]
  | .wrap _ body => body.fragments
  | .and kind first second => .and kind :: (first.fragments ++ second.fragments)
  | .andor condition first second =>
      .andor :: (condition.fragments ++ (first.fragments ++ second.fragments))
  | .or kind first second => .or kind :: (first.fragments ++ second.fragments)
  | .thresh _ subs => .thresh :: subs.fragments

def Scripts.fragments : Scripts → List Fragment
  | .none => []
  | .more first rest => first.fragments ++ rest.fragments

end

mutual

/-- The wrappers of a script. -/
def Script.wrappers : Script → List Wrapper
  | .constant _ => []
  | .key _ _ => []
  | .timelock _ _ => []
  | .hash _ _ => []
  | .multi _ _ _ => []
  | .wrap wrapper body => wrapper :: body.wrappers
  | .and _ first second => first.wrappers ++ second.wrappers
  | .andor condition first second =>
      condition.wrappers ++ (first.wrappers ++ second.wrappers)
  | .or _ first second => first.wrappers ++ second.wrappers
  | .thresh _ subs => subs.wrappers

def Scripts.wrappers : Scripts → List Wrapper
  | .none => []
  | .more first rest => first.wrappers ++ rest.wrappers

end

/-! ### Descriptors -/

/-- A tree of taproot leaves. -/
inductive TapTree where
  | leaf (script : Script)
  | branch (left right : TapTree)

namespace TapTree

def expr : TapTree → Expr
  | leaf script => script.expr
  | branch left right => .braces left.expr right.expr

def fragments : TapTree → List Fragment
  | leaf script => script.fragments
  | branch left right => left.fragments ++ right.fragments

def wrappers : TapTree → List Wrapper
  | leaf script => script.wrappers
  | branch left right => left.wrappers ++ right.wrappers

/-- The number of leaves. -/
def leaves : TapTree → Nat
  | leaf _ => 1
  | branch left right => left.leaves + right.leaves

end TapTree

/-- A descriptor; the first two are bare scripts. -/
inductive Descriptor where
  | pk (key : Operand)
  | multi (sorted : Bool) (threshold : Nat) (keys : List Operand)
  | pkh (key : Operand)
  | wpkh (key : Operand)
  | shWpkh (key : Operand)
  | wsh (script : Script)
  | sh (script : Script)
  | shWsh (script : Script)
  | tr (key : Operand) (tree : Option TapTree)

/-- The outermost fragment sorts its keys, which makes it a type of its own. -/
def Script.isSortedMulti : Script → Bool
  | .multi .sortedMulti _ _ => true
  | _ => false

namespace Descriptor

/-- The kind of a bare multisig. -/
def bareKind (sorted : Bool) : MultiFragment := if sorted then .sortedMulti else .multi

/-- A descriptor as an expression of calls. -/
def expr : Descriptor → Expr
  | pk key => (Fragment.key .pk).call (.atom key.text)
  | multi sorted threshold keys =>
      (Fragment.multi (bareKind sorted) threshold).call (keyList threshold keys)
  | pkh key => (Fragment.key .pkh).call (.atom key.text)
  | wpkh key => .call "wpkh".toList (.atom key.text)
  | shWpkh key => .call "sh".toList (.call "wpkh".toList (.atom key.text))
  | wsh script => .call "wsh".toList script.expr
  | sh script => .call "sh".toList script.expr
  | shWsh script => .call "sh".toList (.call "wsh".toList script.expr)
  | tr key none => .call "tr".toList (.atom key.text)
  | tr key (some tree) => .call "tr".toList (.pair (.atom key.text) tree.expr)

/-- The fragments of a descriptor, in the order of its text. -/
def fragments : Descriptor → List Fragment
  | pk _ => [.key .pk]
  | multi sorted threshold _ => [.multi (bareKind sorted) threshold]
  | pkh _ => [.key .pkh]
  | wpkh _ => []
  | shWpkh _ => []
  | wsh script => script.fragments
  | sh script => script.fragments
  | shWsh script => script.fragments
  | tr _ tree => (tree.map TapTree.fragments).getD []

def wrappers : Descriptor → List Wrapper
  | wsh script => script.wrappers
  | sh script => script.wrappers
  | shWsh script => script.wrappers
  | tr _ (some tree) => tree.wrappers
  | _ => []

/-- The number of leaves of the script tree. -/
def leaves : Descriptor → Nat
  | tr _ (some tree) => tree.leaves
  | _ => 0

/-- The timelocks of a descriptor. -/
def timelocks (descriptor : Descriptor) : List (TimelockKind × Nat) :=
  descriptor.fragments.filterMap Fragment.timelock?

/-- The type a library reports. -/
def descType : Descriptor → DescriptorType
  | pk _ => .bare
  | multi _ _ _ => .bare
  | pkh _ => .pkh
  | wpkh _ => .wpkh
  | shWpkh _ => .shWpkh
  | wsh script => if script.isSortedMulti then .wshSortedMulti else .wsh
  | sh script => if script.isSortedMulti then .shSortedMulti else .sh
  | shWsh script => if script.isSortedMulti then .shWshSortedMulti else .shWsh
  | tr _ _ => .tr

/-- Some key is written with several paths at once. -/
def isMultipath (descriptor : Descriptor) : Bool := decide ('<' ∈ descriptor.expr.print)

/-- The checksum behind a descriptor, where one is given. -/
def checksumPart : Option Operand → List Char
  | none => []
  | some checksum => '#' :: checksum.text

/-- The text of a descriptor. -/
def text (descriptor : Descriptor) (checksum : Option Operand) : String :=
  String.ofList (descriptor.expr.print ++ checksumPart checksum)

/-! ### What the law says -/

/-- The script has a single spending path. -/
structure SinglePath (descriptor : Descriptor) : Prop where
  fragments : ∀ fragment ∈ descriptor.fragments, fragment.isStraight = true
  wrappers : .l ∉ descriptor.wrappers ∧ .u ∉ descriptor.wrappers
  leaves : descriptor.leaves ≤ 1

end Descriptor

/-- `v:multi(...)` or `v:after(n)` and the like, before the second part of an `and_v`. -/
def Script.verified (script : Script) (second : Script) : Script :=
  .and .andV (.wrap .v script) second

/-- The accept set of vaults. -/
inductive AcceptSet : Descriptor → Prop where
  | timelocked (kind : TimelockKind) (value : Nat) (key : Operand) :
      AcceptSet (.wsh ((Script.timelock kind value).verified (.key .pk key)))
  | shMulti (threshold : Nat) (keys : List Operand) :
      AcceptSet (.sh (.multi .multi threshold keys))
  | wshMulti (threshold : Nat) (keys : List Operand) :
      AcceptSet (.wsh (.multi .multi threshold keys))
  | wshSortedMulti (threshold : Nat) (keys : List Operand) :
      AcceptSet (.wsh (.multi .sortedMulti threshold keys))
  | taproot (key : Operand) (threshold : Nat) (keys : List Operand) :
      AcceptSet (.tr key (some (.leaf (.multi .multiA threshold keys))))
  | multiThenTimelock (threshold : Nat) (keys : List Operand) (kind : TimelockKind) (value : Nat) :
      AcceptSet (.wsh ((Script.multi .multi threshold keys).verified (.timelock kind value)))
  | timelockThenMulti (kind : TimelockKind) (value threshold : Nat) (keys : List Operand) :
      AcceptSet (.wsh ((Script.timelock kind value).verified (.multi .multi threshold keys)))

end TallyKeep
