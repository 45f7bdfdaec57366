import GuidedDecoding.Masker
import GuidedDecoding.Session.Journal

set_option autoImplicit false

namespace GuidedDecoding

/-- A token that does not decode gets a warning; it will never be admitted. -/
def Tokenizer.vocabularyEvents (t : Tokenizer) (special : List Int) : List Event :=
  let skipped := (t.ordinaryIds special).filterMap fun id =>
    match t.decode id with
    | .ok _ => none
    | .error f => some (Event.tokenSkipped f)
  match t.vocabulary special with
  | .error _ => []
  | .ok decoded =>
    .vocabularyStarted t.size.toNat :: skipped ++
      [.vocabularyDecoded decoded.length special.length]

namespace Masker

variable {α : Type}

def createEvents (m : Masker) (vocabularyGiven : Bool) : List Event :=
  (if vocabularyGiven then [] else m.tokenizer.vocabularyEvents m.special) ++
    [.maskingStarted m.vocabulary.length m.endToken m.promptLength]

def takeTokenEvents (m : Masker) (s : Session) (id : Int) : List Event :=
  if m.skips s id then []
  else
    match m.chunkOf id with
    | .error _ => []
    | .ok chunk =>
      s.feedEvents chunk ++
        match s.feed chunk with
        | .error (.parse e) => [.tokenViolates id chunk e.reason]
        | _ => []

def takeTokensEvents (m : Masker) (s : Session) : List Int → List Event
  | [] => []
  | id :: ids =>
    m.takeTokenEvents s id ++
      match m.takeToken s id with
      | .ok next => takeTokensEvents m next ids
      | .error _ => []

def endEvents (m : Masker) (s : Session) (valid : List Int) : List Event :=
  if valid.isEmpty && !s.isFinished && !(m.allowsEnd && s.canStop) then
    [.nothingContinues s.steps s.required]
  else []

def maskEvents (m : Masker) (s : Session) (width : Nat) : List Event :=
  s.filterEvents m.vocabulary ++
    match m.validIds s width with
    | .ok valid => m.endEvents s valid
    | .error _ => []

def callRowEvents (m : Masker) (width index : Nat) (ids : List Int) : List Event :=
  (if (m.rows[index]?).isSome then [] else Session.startEvents m.grammar) ++
    match m.row index with
    | .error _ => []
    | .ok row =>
      m.takeTokensEvents row.session (m.freshTokens row ids) ++
        match m.advanceRow row ids with
        | (row,none) => m.maskEvents row.session width
        | (_,some _) => []

def callRowsEvents (m : Masker) (width index : Nat) (scores : List (List (Score α))) :
    List (List Int) → List Event
  | [] => []
  | ids :: batch =>
    let result := m.callRow width index ids scores
    m.callRowEvents width index ids ++
      match result.fault with
      | some _ => []
      | none => callRowsEvents result.masker width (index + 1) result.scores batch

def callEvents (m : Masker) (batch : List (List Int)) (scores : Scores α) : List Event :=
  match scores.columns with
  | none => []
  | some width => m.callRowsEvents width 0 scores.rows batch

end Masker

end GuidedDecoding
