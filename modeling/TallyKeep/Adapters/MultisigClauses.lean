/-
Module: TallyKeep.Adapters.MultisigClauses
Layer: Adapters
Purpose: The multisig clauses of descriptor trees, the forms in which their keys are written, and
  what is to be read off a text with one clause.
Trusted boundary: statement of the forms of public keys, and of the characters of a
  checksum.  There are no extended private keys: no wallet is handed over with its private keys
Main exports: MultisigClause, Script.clauses, Descriptor.clauses, isExtendedKey, isPlainKey,
  StandardForm, ReadsClause
-/
import TallyKeep.Adapters.ConcreteDescriptors
import TallyKeep.Services.Analysis

namespace TallyKeep

open Regex DescriptorPatterns

/-! ### Clauses -/

/-- Some form of `multi`, with its threshold and its keys. -/
structure MultisigClause where
  kind : MultiFragment
  threshold : Nat
  keys : List Operand
deriving DecidableEq

mutual

/-- The multisig clauses of a script, in the order of its text. -/
def Script.clauses : Script → List MultisigClause
  | .constant _ => []
  | .key _ _ => []
  | .timelock _ _ => []
  | .hash _ _ => []
  | .multi kind threshold keys => [⟨kind, threshold, keys⟩]
  | .wrap _ body => body.clauses
  | .and _ first second => first.clauses ++ second.clauses
  | .andor condition first second => condition.clauses ++ (first.clauses ++ second.clauses)
  | .or _ first second => first.clauses ++ second.clauses
  | .thresh _ subs => subs.clauses

def Scripts.clauses : Scripts → List MultisigClause
  | .none => []
  | .more first rest => first.clauses ++ rest.clauses

end

def TapTree.clauses : TapTree → List MultisigClause
  | leaf script => script.clauses
  | branch left right => left.clauses ++ right.clauses

/-- The multisig clauses of a descriptor. -/
def Descriptor.clauses : Descriptor → List MultisigClause
  | multi sorted threshold keys => [⟨bareKind sorted, threshold, keys⟩]
  | wsh script => script.clauses
  | sh script => script.clauses
  | shWsh script => script.clauses
  | tr _ (some tree) => tree.clauses
  | _ => []

/-! ### Forms of keys -/

/-- An extended public key: a letter, `pub`, and the letters and digits of the key. -/
def isExtendedKey : List Char → Bool
  | letter :: 'p' :: 'u' :: 'b' :: c :: rest => letter.isAlpha && (c :: rest).all Char.isAlphanum
  | _ => false

/-- A public key in hexadecimal. -/
def isPlainKey (text : List Char) : Bool := !text.isEmpty && text.all isHexDigit

/-- The characters of a checksum. -/
def checksumChars : List Char := "qpzry9x8gf2tvdw0s3jn54khce6mua7l".toList

/-- The text of the tree is in standard form: its keys are extended keys or plain ones, each with or
    without an origin and steps to derive by, and its digests are in hexadecimal. -/
structure StandardForm (descriptor : Descriptor) (checksum : Option Operand) (mark : Char)
    (forms : List KeyExpression) : Prop where
  marks : mark = 'h' ∨ mark = '\x27'
  keys : descriptor.keys.map Operand.text = forms.map (KeyExpression.text mark)
  accepted : ∀ form ∈ forms,
    isExtendedKey form.key.text = true ∨ isPlainKey form.key.text = true
  digests : ∀ digest ∈ descriptor.digests, ∀ c ∈ digest.text, isHexDigit c = true
  checksum : ∀ sum ∈ checksum, ∀ c ∈ sum.text, c ∈ checksumChars

/-! ### What is read off -/

/-- `parse` returns the threshold and the number of keys of the clause, and the analysis reads the
    same pair off the text. -/
structure ReadsClause (classes : CharClasses) (clause : MultisigClause) (parsed : ParsedDescriptor)
    (expression : String) : Prop where
  required : parsed.requiredSigners = some clause.threshold
  total : parsed.totalSigners = some clause.keys.length
  surface : (AnalysisService.parseDescriptor classes expression).multisig =
    some (clause.threshold, clause.keys.length)

end TallyKeep
