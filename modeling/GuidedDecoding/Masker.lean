import GuidedDecoding.Mask
import GuidedDecoding.Session
import GuidedDecoding.Tokenizer

/-!
Maskers keep a generation inside a grammar. Each row of a batch has a session of its own, which
takes the tokens generated since the last call; then every token that the grammar does not admit is
masked. The end token is admitted where stopping is legal, and where nothing else is.
-/

set_option autoImplicit false

namespace GuidedDecoding

structure Row where
  session : Session
  /-- How many tokens of the row have been taken; `none` before the first call that took them
  all. -/
  processed : Option Nat

structure Masker where
  grammar : Grammar
  tokenizer : Tokenizer
  allowsEnd : Bool
  special : List Int
  promptLength : Int
  vocabulary : Vocabulary Chunk
  rows : List Row

namespace Masker

variable {α : Type}

/-- A masker before its first call. What is not given comes from the tokenizer. -/
def create (g : Grammar) (t : Tokenizer) (allowsEnd : Bool) (special : Option (List Int))
    (promptLength : Int) (vocabulary : Option (Vocabulary Chunk)) : Except Fault Masker :=
  let special := special.getD t.special
  match vocabulary with
  | some vocabulary => .ok ⟨g,t,allowsEnd,special,promptLength,vocabulary,[]⟩
  | none =>
    (t.vocabulary special).map fun decoded =>
      ⟨g,t,allowsEnd,special,promptLength,decoded.chunks,[]⟩

def endToken (m : Masker) : Option Int := m.tokenizer.endToken

def reset (m : Masker) : Masker := { m with rows := [] }

/-- What a generated token contributes. One for which the vocabulary has nothing is decoded. -/
def chunkOf (m : Masker) (id : Int) : Except Fault Chunk :=
  match m.vocabulary.find? id with
  | none | some .absent => (m.tokenizer.decode id).map .bytes
  | some chunk => .ok chunk

def skips (m : Masker) (s : Session) (id : Int) : Bool := m.special.contains id || s.isFinished

/-- Commits a generated token. One that violates the grammar leaves the session as it was. -/
def takeToken (m : Masker) (s : Session) (id : Int) : Except Fault Session :=
  if m.skips s id then .ok s
  else
    match m.chunkOf id with
    | .error f => .error f
    | .ok chunk =>
      match s.feed chunk with
      | .ok (_,next) => .ok next
      | .error (.parse _) => .ok s
      | .error (.fault f) => .error f

/-- Commits tokens in order. A fault ends the run and keeps what was committed before it. -/
def takeTokens (m : Masker) (s : Session) : List Int → Session × Option Fault
  | [] => (s,none)
  | id :: ids =>
    match m.takeToken s id with
    | .ok next => takeTokens m next ids
    | .error f => (s,some f)

def freshTokens (m : Masker) (row : Row) (ids : List Int) : List Int :=
  ids.drop (max (row.processed.getD 0) m.promptLength.toNat)

def advanceRow (m : Masker) (row : Row) (ids : List Int) : Row × Option Fault :=
  match m.takeTokens row.session (m.freshTokens row ids) with
  | (s,none) => (⟨s,some ids.length⟩,none)
  | (s,some f) => (⟨s,row.processed⟩,some f)

def validIds (m : Masker) (s : Session) (width : Nat) : Except Fault (List Int) :=
  (s.validIds m.vocabulary).map fun ids => ids.filter fun id => id < width

/-- Whether the end token is admitted. Where nothing continues, ending is better than masking
all. -/
def admitsEnd (m : Masker) (s : Session) (valid : List Int) : Bool :=
  s.isFinished || (m.allowsEnd && s.canStop) || valid.isEmpty

/-- The mask of a row, given the admitted tokens. The end token's place is settled last. -/
def maskOf (m : Masker) (s : Session) (width : Nat) (valid : List Int) : Except Fault Mask :=
  match Mask.allowing valid width with
  | .error f => .error f
  | .ok mask =>
    match m.endToken with
    | some id => if id < width then mask.put id (!m.admitsEnd s valid) else .ok mask
    | none => .ok mask

def mask (m : Masker) (s : Session) (width : Nat) : Except Fault Mask :=
  match m.validIds s width with
  | .error f => .error f
  | .ok valid => m.maskOf s width valid

def row (m : Masker) (index : Nat) : Except Fault Row :=
  match m.rows[index]? with
  | some row => .ok row
  | none => (Session.start m.grammar).map fun s => ⟨s,none⟩

def putRow (m : Masker) (index : Nat) (row : Row) : Masker :=
  { m with rows := if index < m.rows.length then m.rows.set index row else m.rows ++ [row] }

def maskRow (mask : Mask) (index : Nat) (scores : List (List (Score α))) :
    Except Fault (List (List (Score α))) :=
  match scores[index]? with
  | some row => .ok (scores.set index (mask.apply row))
  | none => .error (.outOfBounds index scores.length)

/-- What a call leaves behind, also when it fails midway. -/
structure Result (α : Type) where
  masker : Masker
  scores : List (List (Score α))
  fault : Option Fault

def callRow (m : Masker) (width index : Nat) (ids : List Int) (scores : List (List (Score α))) :
    Result α :=
  match m.row index with
  | .error f => ⟨m,scores,some f⟩
  | .ok row =>
    let (row,fault) := m.advanceRow row ids
    let m := m.putRow index row
    match fault with
    | some f => ⟨m,scores,some f⟩
    | none =>
      match m.mask row.session width with
      | .error f => ⟨m,scores,some f⟩
      | .ok mask =>
        match maskRow mask index scores with
        | .error f => ⟨m,scores,some f⟩
        | .ok scores => ⟨m,scores,none⟩

def callRows (m : Masker) (width index : Nat) (scores : List (List (Score α))) :
    List (List Int) → Result α
  | [] => ⟨m,scores,none⟩
  | ids :: batch =>
    let result := m.callRow width index ids scores
    match result.fault with
    | some _ => result
    | none => callRows result.masker width (index + 1) result.scores batch

def call (m : Masker) (batch : List (List Int)) (scores : Scores α) : Result α :=
  match scores.columns with
  | none => ⟨m,scores.rows,some .noColumns⟩
  | some width => m.callRows width 0 scores.rows batch

def render (m : Masker) : String :=
  s!"StructuredLogitsProcessor(rows={m.rows.length}, vocab={m.vocabulary.length})"

end Masker

end GuidedDecoding
