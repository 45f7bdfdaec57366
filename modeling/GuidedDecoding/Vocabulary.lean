import GuidedDecoding.Chunk

set_option autoImplicit false

namespace GuidedDecoding

abbrev Vocabulary (τ : Type) := List (Int × τ)

namespace Vocabulary

variable {τ : Type}

def put (id : Int) (token : τ) : Vocabulary τ → Vocabulary τ
  | [] => [(id,token)]
  | (id',token') :: rest =>
    if id' = id then (id,token) :: rest else (id',token') :: put id token rest

def ofList (entries : List (Int × τ)) : Vocabulary τ :=
  entries.foldl (fun v (id,token) => v.put id token) []

def find? (id : Int) : Vocabulary τ → Option τ
  | [] => none
  | (id',token) :: rest => if id' = id then some token else find? id rest

def chunks (v : Vocabulary Bytes) : Vocabulary Chunk := v.map fun (id,data) => (id,.bytes data)

def toBytes : Vocabulary Chunk → Except Fault (Vocabulary Bytes)
  | [] => .ok []
  | (id,chunk) :: rest =>
    match chunk.toBytes with
    | .error f => .error f
    | .ok data => (toBytes rest).map ((id,data) :: ·)

end Vocabulary

end GuidedDecoding
