import Stencil.Binary64.Basic
/-! JSON values, numbers kept in the form they were read in and object members sorted by key. -/

namespace Stencil

/-- A JSON number: a natural below 2^64, a negative integer from -2^63, or a binary64 number for any
other. -/
inductive Number where
  | nat (n : Nat)
  | negInt (n : Int)
  | float (x : Binary64)
deriving Repr, DecidableEq

/-- A JSON value; an object holds its members sorted by key, each key once. -/
inductive Json where
  | null
  | bool (b : Bool)
  | number (n : Number)
  | string (s : String)
  | array (items : List Json)
  | object (members : List (String × Json))
deriving Repr, Inhabited

namespace Json

/-- The members with `key` bound to `value`: in key order, replacing an earlier binding. -/
def insertMember (key : String) (value : Json) : List (String × Json) → List (String × Json)
  | [] => [(key, value)]
  | (k, v) :: rest =>
    if key < k then (key, value) :: (k, v) :: rest
    else if key = k then (key, value) :: rest
    else (k, v) :: insertMember key value rest

def findMember? (key : String) : List (String × Json) → Option Json
  | [] => none
  | (k, v) :: rest => if key = k then some v else findMember? key rest

/-- The members of an object, in order of reading; later ones replace earlier ones. -/
def ofMembers (members : List (String × Json)) : Json :=
  .object (members.foldl (fun acc m => insertMember m.1 m.2 acc) [])

def empty : Json := .object []

def member? : Json → String → Option Json
  | .object members, key => findMember? key members
  | _, _ => none

@[simp] theorem findMember?_insertMember_self (key : String) (value : Json)
    (members : List (String × Json)) :
    findMember? key (insertMember key value members) = some value := by
  induction members with
  | nil => simp [insertMember, findMember?]
  | cons head rest ih =>
    obtain ⟨k, v⟩ := head
    simp only [insertMember]
    split
    · simp [findMember?]
    · split
      · simp [findMember?]
      · rename_i _ different
        simp [findMember?, different, ih]

end Json

end Stencil
