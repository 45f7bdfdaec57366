import GuidedDecoding.Journal

set_option autoImplicit false

namespace GuidedDecoding

def Attempt.next (c : Checkpoint) : Attempt → Option Checkpoint
  | .error _ => some c
  | .ok (.incomplete c' _) => some c'
  | .ok (.finished _ _) => none

namespace Grammar

def feed (g : Grammar) (c : Checkpoint) : List Chunk → List Attempt
  | [] => []
  | d :: ds =>
    let attempt := g.advanceChunk c d
    attempt :: match Attempt.next c attempt with
      | some c' => feed g c' ds
      | none => []

def feedEvents (g : Grammar) (c : Checkpoint) : List Chunk → List Event
  | [] => []
  | d :: ds =>
    g.chunkEvents c d ++ match Attempt.next c (g.advanceChunk c d) with
      | some c' => feedEvents g c' ds
      | none => []

def fork (g : Grammar) (c : Checkpoint) (ds : List Chunk) : List Attempt :=
  ds.map (g.advanceChunk c)

def forkEvents (g : Grammar) (c : Checkpoint) (ds : List Chunk) : List Event :=
  ds.flatMap (g.chunkEvents c)

def feedUntil (g : Grammar) (c : Checkpoint) : List Chunk → List Attempt
  | [] => []
  | d :: ds =>
    match g.advanceChunk c d with
    | .ok (.incomplete c' required) => .ok (.incomplete c' required) :: feedUntil g c' ds
    | last => [last]

def feedUntilEvents (g : Grammar) (c : Checkpoint) : List Chunk → List Event
  | [] => []
  | d :: ds =>
    g.chunkEvents c d ++ match g.advanceChunk c d with
      | .ok (.incomplete c' _) => feedUntilEvents g c' ds
      | _ => []

def feedPieces (g : Grammar) (size : Nat) (data : Bytes) : List Attempt :=
  g.feedUntil g.initial ((data.pieces size).map .bytes)

def feedPiecesEvents (g : Grammar) (size : Nat) (data : Bytes) : List Event :=
  g.feedUntilEvents g.initial ((data.pieces size).map .bytes)

end Grammar

end GuidedDecoding
