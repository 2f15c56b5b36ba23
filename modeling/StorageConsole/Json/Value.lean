import StorageConsole.Decimal.Binary64

/-! JSON values. Members that were read or inserted are in ascending order of their keys. -/

namespace StorageConsole.Json

inductive Number where
  | int (i : Int)
  | real (x : Decimal.Binary64)
  deriving DecidableEq, Repr, Inhabited

inductive Value where
  | null
  | bool (b : Bool)
  | number (n : Number)
  | string (s : String)
  | array (items : List Value)
  | object (members : List (String × Value))
  deriving Repr, Inhabited

mutual

def Value.decide : (v w : Value) → Decidable (v = w)
  | .null, w => by cases w <;> first | exact isTrue rfl | exact isFalse (by simp)
  | .bool a, w => by
    cases w with
    | bool b => exact decidable_of_iff (a = b) (by simp)
    | _ => exact isFalse (by simp)
  | .number a, w => by
    cases w with
    | number b => exact decidable_of_iff (a = b) (by simp)
    | _ => exact isFalse (by simp)
  | .string a, w => by
    cases w with
    | string b => exact decidable_of_iff (a = b) (by simp)
    | _ => exact isFalse (by simp)
  | .array xs, w => by
    cases w with
    | array ys => exact @decidable_of_iff _ (xs = ys) (by simp) (Value.decideItems xs ys)
    | _ => exact isFalse (by simp)
  | .object xs, w => by
    cases w with
    | object ys => exact @decidable_of_iff _ (xs = ys) (by simp) (Value.decideMembers xs ys)
    | _ => exact isFalse (by simp)

def Value.decideItems : (xs ys : List Value) → Decidable (xs = ys)
  | [], [] => isTrue rfl
  | [], _ :: _ => isFalse (by simp)
  | _ :: _, [] => isFalse (by simp)
  | x :: xs, y :: ys =>
    match Value.decide x y, Value.decideItems xs ys with
    | isTrue h, isTrue k => isTrue (by rw [h, k])
    | isFalse h, _ => isFalse (by simp [h])
    | _, isFalse k => isFalse (by simp [k])

def Value.decideMembers : (xs ys : List (String × Value)) → Decidable (xs = ys)
  | [], [] => isTrue rfl
  | [], _ :: _ => isFalse (by simp)
  | _ :: _, [] => isFalse (by simp)
  | (k, x) :: xs, (l, y) :: ys =>
    match instDecidableEqString k l, Value.decide x y, Value.decideMembers xs ys with
    | isTrue h, isTrue i, isTrue j => isTrue (by rw [h, i, j])
    | isFalse h, _, _ => isFalse (by simp [h])
    | _, isFalse i, _ => isFalse (by simp [i])
    | _, _, isFalse j => isFalse (by simp [j])

end

instance : DecidableEq Value := Value.decide

namespace Value

def insert (key : String) (value : Value) : List (String × Value) → List (String × Value)
  | [] => [(key, value)]
  | (k, v) :: rest =>
    if key < k then (key, value) :: (k, v) :: rest
    else if key = k then (key, value) :: rest
    else (k, v) :: insert key value rest

def member? (members : List (String × Value)) (key : String) : Option Value :=
  (members.find? (·.1 == key)).map (·.2)

def members? : Value → Option (List (String × Value))
  | object members => some members
  | _ => none

def text? : Value → Option String
  | string s => some s
  | _ => none

def bool? : Value → Option Bool
  | bool b => some b
  | _ => none

def signed? : Value → Option Int
  | number (.int i) => if -Int.pow 2 63 ≤ i ∧ i < Int.pow 2 63 then some i else none
  | _ => none

def natural? : Value → Option Nat
  | number (.int i) => if 0 ≤ i ∧ i < Int.pow 2 64 then some i.toNat else none
  | _ => none

def texts? : Value → Option (List String)
  | array items => items.mapM text?
  | _ => none

def isNull : Value → Bool
  | null => true
  | _ => false

end Value
end StorageConsole.Json
