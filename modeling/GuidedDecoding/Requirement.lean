import GuidedDecoding.Chunk

set_option autoImplicit false

namespace GuidedDecoding

inductive Origin where
  | borrowed
  | owned
  deriving DecidableEq, Repr

structure Requirement where
  origin : Origin
  bytes : Bytes
  deriving DecidableEq, Repr

namespace Requirement

def borrowed (bytes : Bytes) : Requirement := ⟨.borrowed,bytes⟩

def owned (bytes : Bytes) : Requirement := ⟨.owned,bytes⟩

def empty : Requirement := owned []

def isEmpty (r : Requirement) : Bool := r.bytes.isEmpty

def sameBytes (r s : Requirement) : Bool := r.bytes == s.bytes

/-- Equality of content with memory; nothing else equals a requirement. -/
def equalsChunk (r : Requirement) (data : Chunk) : Bool :=
  data.memory? == some r.bytes

/-- Whether `data` can be fed without a conflict: one of the two starts the other. -/
def compatible (r : Requirement) (data : Bytes) : Bool :=
  if r.bytes.length ≤ data.length then r.bytes.isPrefixOf data else data.isPrefixOf r.bytes

theorem compatible_iff (r : Requirement) (data : Bytes) :
    r.compatible data = true ↔ r.bytes <+: data ∨ data <+: r.bytes := by
  unfold compatible
  split
  · rename_i h
    simp only [List.isPrefixOf_iff_prefix,iff_self_or]
    exact fun hd => (hd.eq_of_length_le h) ▸ List.prefix_rfl
  · rename_i h
    simp only [List.isPrefixOf_iff_prefix,iff_or_self]
    exact fun hr => absurd hr.length_le h

def startsWith (r : Requirement) (lead : Bytes) : Bool := lead.isPrefixOf r.bytes

/-- What is left of `agreed` once each of the byte strings has had its say; `none` as soon as
nothing is left. -/
def narrow (agreed : Bytes) : List Bytes → Option Bytes
  | [] => some agreed
  | other :: others =>
    match Bytes.agreement agreed other with
    | [] => none
    | rest => narrow rest others

/-- The bytes that all requirements agree on; `none` if there is no requirement, or if two or more
leave nothing. -/
def agreement? : List Requirement → Option Bytes
  | [] => none
  | r :: rs => narrow r.bytes (rs.map bytes)

def commonPrefix (rs : List Requirement) : Requirement :=
  match agreement? rs with
  | none => empty
  | some agreed => owned agreed

def render (r : Requirement) : String :=
  (match r.origin with
    | .borrowed => "Borrowed("
    | .owned => "Owned(") ++ Quoted.bytes r.bytes ++ ")"

end Requirement

end GuidedDecoding
