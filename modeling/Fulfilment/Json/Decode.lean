import Fulfilment.Json.Syntax
import Fulfilment.Number.FloatText
import Fulfilment.Text.Quoted

/-!
Reading JSON into an expected `Shape`, straight from text (`decodeText`, which places its
problems) or from a parsed value (`decodeValue`). Both give a record as an object of its fields in
declared order, defaults filled in.
-/

namespace Fulfilment.Json

/-- How a value is expected to look, and how it is converted once read. -/
inductive Shape where
  /-- Any JSON value, kept as read. -/
  | any
  /-- A string. -/
  | text
  /-- A whole number that fits in 64 signed bits. -/
  | int64
  /-- A boolean. -/
  | flag
  /-- `null` for nothing, or the inner shape. -/
  | optional (inner : Shape)
  /-- An array of items of one shape. -/
  | list (item : Shape)
  /-- An object whose members all have one shape. -/
  | dict (item : Shape)
  /-- A record called `name`: an object with the given fields, or an array of their values in
  order. A field with a default may be left out. -/
  | record (name : String) (fields : List (String × Shape × Option Value))
  /-- One of the given words, as a string. -/
  | word (names : List String)
  /-- A string turned into a value by `convert`; `expecting` names what is wanted. -/
  | textAs (expecting : String) (convert : String → Except String Value)
  /-- The inner shape, then a check that may refuse it. -/
  | checked (inner : Shape) (check : Value → Except String Value)

def Shape.expecting : Shape → String
  | .any => "any valid JSON value"
  | .text => "a string"
  | .int64 => "i64"
  | .flag => "a boolean"
  | .optional s => s.expecting
  | .list _ => "a sequence"
  | .dict _ => "a map"
  | .record name _ => "struct " ++ name
  | .word _ => "variant identifier"
  | .textAs e _ => e
  | .checked s _ => s.expecting

/-- How a value is described when it is not what was wanted. -/
def Value.unexpected : Value → String
  | .null => "null"
  | .bool b => "boolean `" ++ (if b then "true" else "false") ++ "`"
  | .num (.int i) => "integer `" ++ toString i ++ "`"
  | .num (.float b) => "floating point `" ++ FloatText.json b ++ "`"
  | .str t => "string " ++ Text.quoted t
  | .arr _ => "sequence"
  | .obj _ => "map"

def invalidType (found expected : String) : String :=
  "invalid type: " ++ found ++ ", expected " ++ expected

def invalidValue (found expected : String) : String :=
  "invalid value: " ++ found ++ ", expected " ++ expected

def invalidLength (n : Nat) (expected : String) : String :=
  "invalid length " ++ toString n ++ ", expected " ++ expected

def missingField (name : String) : String := "missing field `" ++ name ++ "`"

def duplicateField (name : String) : String := "duplicate field `" ++ name ++ "`"

def oneOf : List String → String
  | [] => "nothing"
  | [a] => "`" ++ a ++ "`"
  | [a, b] => "`" ++ a ++ "` or `" ++ b ++ "`"
  | names => "one of " ++ ", ".intercalate (names.map fun n => "`" ++ n ++ "`")

def unknownVariant (found : String) : List String → String
  | [] => "unknown variant `" ++ found ++ "`, there are no variants"
  | names => "unknown variant `" ++ found ++ "`, expected " ++ oneOf names

def pickWord (names : List String) (t : String) : Except String Value :=
  if names.contains t then .ok (.str t) else .error (unknownVariant t names)

def recordLength (name : String) (n : Nat) : String :=
  "struct " ++ name ++ " with " ++ toString n ++ (if n = 1 then " element" else " elements")

def i64Max : Int := Int.pow 2 63 - 1

def int64OfNumber : Number → Except String Value
  | .int i => if i > i64Max then .error (invalidValue ("integer `" ++ toString i ++ "`") "i64")
              else .ok (.int i)
  | .float b => .error (invalidType (Value.unexpected (.num (.float b))) "i64")

/-! ### Reading from text -/

/-- The result of reading: a value and the index after it, or an error and the index the
reader had reached. -/
abbrev Read := Except (Error × Nat) (Value × Nat)

/-- Describes the value at `i` (a scalar is read, a bracket only looked at) as not being what
`expected` names. -/
def peekInvalidType (s : ByteArray) (i : Nat) (expected : String) : Error :=
  let found (v : Value) (j : Nat) := errAt s j (.message (invalidType v.unexpected expected))
  match byteAt? s i with
  | some 110 =>
    match readIdent s (i + 1) [117, 108, 108] with
    | .error e => e
    | .ok j => found .null j
  | some 116 =>
    match readIdent s (i + 1) [114, 117, 101] with
    | .error e => e
    | .ok j => found (.bool true) j
  | some 102 =>
    match readIdent s (i + 1) [97, 108, 115, 101] with
    | .error e => e
    | .ok j => found (.bool false) j
  | some 45 =>
    match readUnsigned s (i + 1) false with
    | .error e => e
    | .ok (n, j) => found (.num n) j
  | some 34 =>
    match readStr s (i + 1) with
    | .error e => e
    | .ok (t, j) => found (.str t) j
  | some 91 => errAt s i (.message (invalidType "sequence" expected))
  | some 123 => errAt s i (.message (invalidType "map" expected))
  | some b =>
    if isDigit b then
      match readUnsigned s i true with
      | .error e => e
      | .ok (n, j) => found (.num n) j
    else peekErr s i .expectedValue
  | none => peekErr s i .expectedValue

/-- A string at `i` (blanks first) handed to `convert`; a refusal is placed after the string. -/
def readTextAs (s : ByteArray) (i : Nat) (expected : String) (convert : String → Except String Value) :
    Read :=
  let i := skipBlank s i
  match byteAt? s i with
  | none => .error (peekErr s i .eofValue, i)
  | some 34 =>
    match readStr s (i + 1) with
    | .error e => .error (e, i)
    | .ok (t, j) =>
      match convert t with
      | .ok v => .ok (v, j)
      | .error m => .error (errAt s j (.message m), j)
  | some _ => .error (peekInvalidType s i expected, i)

def readInt64 (s : ByteArray) (i : Nat) : Read :=
  let i := skipBlank s i
  let visit (r : Except Error (Number × Nat)) : Read :=
    match r with
    | .error e => .error (e, i)
    | .ok (n, j) =>
      match int64OfNumber n with
      | .ok v => .ok (v, j)
      | .error m => .error (errAt s j (.message m), j)
  match byteAt? s i with
  | none => .error (peekErr s i .eofValue, i)
  | some 45 => visit (readUnsigned s (i + 1) false)
  | some b => if isDigit b then visit (readUnsigned s i true) else .error (peekInvalidType s i "i64", i)

def readFlag (s : ByteArray) (i : Nat) : Read :=
  let i := skipBlank s i
  match byteAt? s i with
  | none => .error (peekErr s i .eofValue, i)
  | some 116 =>
    match readIdent s (i + 1) [114, 117, 101] with
    | .error e => .error (e, i)
    | .ok j => .ok (.bool true, j)
  | some 102 =>
    match readIdent s (i + 1) [97, 108, 115, 101] with
    | .error e => .error (e, i)
    | .ok j => .ok (.bool false, j)
  | some _ => .error (peekInvalidType s i "a boolean", i)

/-- `null` at `i` (blanks first), as the only value of a unit. -/
def readUnit (s : ByteArray) (i : Nat) : Read :=
  let i := skipBlank s i
  match byteAt? s i with
  | none => .error (peekErr s i .eofValue, i)
  | some 110 =>
    match readIdent s (i + 1) [117, 108, 108] with
    | .error e => .error (e, i)
    | .ok j => .ok (.null, j)
  | some _ => .error (peekInvalidType s i "unit", i)

/-- A scalar at `i` (blanks first, not a bracket) as any value. -/
def readScalar (s : ByteArray) (i : Nat) (b : UInt8) : Read :=
  let lift (r : Except Error (Value × Nat)) : Read :=
    match r with
    | .ok p => .ok p
    | .error e => .error (e, i)
  if b == 110 then lift ((readIdent s (i + 1) [117, 108, 108]).map fun j => (.null, j))
  else if b == 116 then lift ((readIdent s (i + 1) [114, 117, 101]).map fun j => (.bool true, j))
  else if b == 102 then lift ((readIdent s (i + 1) [97, 108, 115, 101]).map fun j => (.bool false, j))
  else if b == 45 then lift ((readUnsigned s (i + 1) false).map fun (n, j) => (.num n, j))
  else if isDigit b then lift ((readUnsigned s i true).map fun (n, j) => (.num n, j))
  else if b == 34 then lift ((readStr s (i + 1)).map fun (t, j) => (.str t, j))
  else .error (peekErr s i .expectedValue, i)

/-- Where an array element starts: `none` at the closing bracket (not consumed). -/
def nextElement (s : ByteArray) (i : Nat) (first : Bool) : Except (Error × Nat) (Option Nat × Nat) :=
  let j := skipBlank s i
  match byteAt? s j with
  | none => .error (peekErr s j .eofList, j)
  | some 93 => .ok (none, j)
  | some b =>
    if b == 44 && !first then
      let k := skipBlank s (j + 1)
      match byteAt? s k with
      | some 93 => .error (peekErr s k .trailingComma, k)
      | some _ => .ok (some k, k)
      | none => .error (peekErr s k .eofValue, k)
    else if first then .ok (some j, j)
    else .error (peekErr s j .expectedListCommaOrEnd, j)

/-- The next key of an object: `none` at the closing brace (not consumed). -/
def nextKey (s : ByteArray) (i : Nat) (first : Bool) : Except (Error × Nat) (Option String × Nat) :=
  let key (k : Nat) : Except (Error × Nat) (Option String × Nat) :=
    match byteAt? s k with
    | some 34 =>
      match readStr s (k + 1) with
      | .ok (t, m) => .ok (some t, m)
      | .error e => .error (e, k)
    | some 125 => .error (peekErr s k .trailingComma, k)
    | some _ => .error (peekErr s k .keyMustBeString, k)
    | none => .error (peekErr s k .eofValue, k)
  let j := skipBlank s i
  match byteAt? s j with
  | none => .error (peekErr s j .eofObject, j)
  | some 125 => .ok (none, j)
  | some b =>
    if b == 44 && !first then key (skipBlank s (j + 1))
    else if first then
      if b == 34 then key j else .error (peekErr s j .keyMustBeString, j)
    else .error (peekErr s j .expectedObjectCommaOrEnd, j)

def objectColon (s : ByteArray) (i : Nat) : Except (Error × Nat) Nat :=
  let j := skipBlank s i
  match byteAt? s j with
  | some 58 => .ok (j + 1)
  | some _ => .error (peekErr s j .expectedColon, j)
  | none => .error (peekErr s j .eofObject, j)

/-- The end of an array: the index reached and the problem, if the array does not end here. -/
def endArray (s : ByteArray) (i : Nat) : Nat × Option Error :=
  let j := skipBlank s i
  match byteAt? s j with
  | some 93 => (j + 1, none)
  | some 44 =>
    let k := skipBlank s (j + 1)
    if byteAt? s k == some 93 then (k, some (peekErr s k .trailingComma))
    else (k, some (peekErr s k .trailingCharacters))
  | some _ => (j, some (peekErr s j .trailingCharacters))
  | none => (j, some (peekErr s j .eofList))

/-- The end of an object: the index reached and the problem, if the object does not end here. -/
def endObject (s : ByteArray) (i : Nat) : Nat × Option Error :=
  let j := skipBlank s i
  match byteAt? s j with
  | some 125 => (j + 1, none)
  | some 44 => (j, some (peekErr s j .trailingComma))
  | some _ => (j, some (peekErr s j .trailingCharacters))
  | none => (j, some (peekErr s j .eofObject))

/-- Closes a bracketed value read by `r`: the closing check runs whether or not the contents
were read, and a problem without a position gets the index reached after it. -/
def closeWith (s : ByteArray) (close : ByteArray → Nat → Nat × Option Error) (r : Read) : Read :=
  match r with
  | .ok (v, j) =>
    match close s j with
    | (k, none) => .ok (v, k)
    | (k, some e) => .error (e, k)
  | .error (e, j) =>
    let (k, _) := close s j
    .error (placeAt s k e, k)

/-- Finishes a record read from an object: fields in declared order, defaults for absent ones. -/
def finishFields (found : List (String × Value)) :
    List (String × Shape × Option Value) → Except String (List (String × Value))
  | [] => .ok []
  | (name, _, dflt) :: rest =>
    let here : Except String Value :=
      match (found.find? (·.1 == name)).map (·.2), dflt with
      | some v, _ => .ok v
      | none, some d => .ok d
      | none, none => .error (missingField name)
    match here, finishFields found rest with
    | .error m, _ => .error m
    | .ok _, .error m => .error m
    | .ok v, .ok vs => .ok ((name, v) :: vs)

mutual

/-- Reads a value of shape `sh` at `i`, with `depth` levels of nesting left. -/
def decodeAt (s : ByteArray) : Nat → Nat → Shape → Nat → Read
  | 0, _, _, i => .error (errAt s i .eofValue, i)
  | fuel + 1, depth, sh, i =>
    match sh with
    | .text => readTextAs s i "a string" fun t => .ok (.str t)
    | .textAs e f => readTextAs s i e f
    | .int64 => readInt64 s i
    | .flag => readFlag s i
    | .optional inner =>
      let j := skipBlank s i
      match byteAt? s j with
      | some 110 =>
        match readIdent s (j + 1) [117, 108, 108] with
        | .error e => .error (e, j)
        | .ok k => .ok (.null, k)
      | _ => decodeAt s fuel depth inner j
    | .checked inner check =>
      match decodeAt s fuel depth inner i with
      | .error p => .error p
      | .ok (v, j) =>
        match check v with
        | .ok w => .ok (w, j)
        | .error m => .error (Error.plain m, j)
    | .word names =>
      let j := skipBlank s i
      match byteAt? s j with
      | none => .error (peekErr s j .eofValue, j)
      | some 34 => readTextAs s j "variant identifier" (pickWord names)
      | some 123 =>
        if depth ≤ 1 then .error (peekErr s j .recursionLimit, j) else
        match readTextAs s (j + 1) "variant identifier" (pickWord names) with
        | .error p => .error p
        | .ok (v, k) =>
          match objectColon s k with
          | .error p => .error p
          | .ok k =>
            match readUnit s k with
            | .error p => .error p
            | .ok (_, m) =>
              let m := skipBlank s m
              match byteAt? s m with
              | some 125 => .ok (v, m + 1)
              | some _ => .error (errAt s m .expectedValue, m)
              | none => .error (errAt s m .eofObject, m)
      | some _ => .error (peekErr s j .expectedValue, j)
    | .list item =>
      let j := skipBlank s i
      match byteAt? s j with
      | none => .error (peekErr s j .eofValue, j)
      | some 91 =>
        if depth ≤ 1 then .error (peekErr s j .recursionLimit, j) else
        closeWith s endArray (decodeItems s fuel (depth - 1) item (j + 1) true [])
      | some _ => .error (peekInvalidType s j "a sequence", j)
    | .dict item =>
      let j := skipBlank s i
      match byteAt? s j with
      | none => .error (peekErr s j .eofValue, j)
      | some 123 =>
        if depth ≤ 1 then .error (peekErr s j .recursionLimit, j) else
        closeWith s endObject (decodeEntries s fuel (depth - 1) item (j + 1) true [])
      | some _ => .error (peekInvalidType s j "a map", j)
    | .any =>
      let j := skipBlank s i
      match byteAt? s j with
      | none => .error (peekErr s j .eofValue, j)
      | some 91 =>
        if depth ≤ 1 then .error (peekErr s j .recursionLimit, j) else
        closeWith s endArray (decodeItems s fuel (depth - 1) .any (j + 1) true [])
      | some 123 =>
        if depth ≤ 1 then .error (peekErr s j .recursionLimit, j) else
        closeWith s endObject (decodeEntries s fuel (depth - 1) .any (j + 1) true [])
      | some b => readScalar s j b
    | .record name fields =>
      let j := skipBlank s i
      match byteAt? s j with
      | none => .error (peekErr s j .eofValue, j)
      | some 91 =>
        if depth ≤ 1 then .error (peekErr s j .recursionLimit, j) else
        closeWith s endArray
          (decodeFieldsSeq s fuel (depth - 1) name fields.length fields 0 (j + 1) true [])
      | some 123 =>
        if depth ≤ 1 then .error (peekErr s j .recursionLimit, j) else
        closeWith s endObject (decodeFieldsMap s fuel (depth - 1) fields (j + 1) true [])
      | some _ => .error (peekInvalidType s j ("struct " ++ name), j)

def decodeItems (s : ByteArray) : Nat → Nat → Shape → Nat → Bool → List Value → Read
  | 0, _, _, i, _, _ => .error (errAt s i .eofValue, i)
  | fuel + 1, depth, item, i, first, acc =>
    match nextElement s i first with
    | .error p => .error p
    | .ok (none, j) => .ok (.arr acc.reverse, j)
    | .ok (some j, _) =>
      match decodeAt s fuel depth item j with
      | .error p => .error p
      | .ok (v, k) => decodeItems s fuel depth item k false (v :: acc)

/-- The members of an object, up to its closing brace; a later key replaces an earlier one. -/
def decodeEntries (s : ByteArray) : Nat → Nat → Shape → Nat → Bool → List (String × Value) → Read
  | 0, _, _, i, _, _ => .error (errAt s i .eofValue, i)
  | fuel + 1, depth, item, i, first, acc =>
    match nextKey s i first with
    | .error p => .error p
    | .ok (none, j) => .ok (.obj acc, j)
    | .ok (some key, j) =>
      match objectColon s j with
      | .error p => .error p
      | .ok k =>
        match decodeAt s fuel depth item k with
        | .error p => .error p
        | .ok (v, m) => decodeEntries s fuel depth item m false (insertSorted key v acc)

/-- A record from an object: known fields once each, other members skipped. -/
def decodeFieldsMap (s : ByteArray) : Nat → Nat → List (String × Shape × Option Value) → Nat → Bool →
    List (String × Value) → Read
  | 0, _, _, i, _, _ => .error (errAt s i .eofValue, i)
  | fuel + 1, depth, fields, i, first, found =>
    match nextKey s i first with
    | .error p => .error p
    | .ok (none, j) =>
      match finishFields found fields with
      | .ok ms => .ok (.obj ms, j)
      | .error m => .error (Error.plain m, j)
    | .ok (some key, j) =>
      match fields.find? (·.1 == key) with
      | some (_, sh, _) =>
        if found.any (·.1 == key) then .error (Error.plain (duplicateField key), j) else
        match objectColon s j with
        | .error p => .error p
        | .ok k =>
          match decodeAt s fuel depth sh k with
          | .error p => .error p
          | .ok (v, m) => decodeFieldsMap s fuel depth fields m false ((key, v) :: found)
      | none =>
        match objectColon s j with
        | .error p => .error p
        | .ok k =>
          match skipValue s k with
          | .error e => .error (e, k)
          | .ok m => decodeFieldsMap s fuel depth fields m false found

/-- A record from an array: one element per field in order, a default when the array has
ended. -/
def decodeFieldsSeq (s : ByteArray) : Nat → Nat → String → Nat → List (String × Shape × Option Value) →
    Nat → Nat → Bool → List (String × Value) → Read
  | 0, _, _, _, _, _, i, _, _ => .error (errAt s i .eofValue, i)
  | _ + 1, _, _, _, [], _, i, _, acc => .ok (.obj acc.reverse, i)
  | fuel + 1, depth, name, total, (field, sh, dflt) :: rest, index, i, first, acc =>
    match nextElement s i first with
    | .error p => .error p
    | .ok (none, j) =>
      match dflt with
      | some d => decodeFieldsSeq s fuel depth name total rest (index + 1) j first ((field, d) :: acc)
      | none => .error (Error.plain (invalidLength index (recordLength name total)), j)
    | .ok (some j, _) =>
      match decodeAt s fuel depth sh j with
      | .error p => .error p
      | .ok (v, k) => decodeFieldsSeq s fuel depth name total rest (index + 1) k false ((field, v) :: acc)

end

/-- Reads a whole text as shape `sh`: the value, then nothing but blanks. Nesting is limited
to 127 levels of brackets. -/
def decodeText (sh : Shape) (s : ByteArray) : Except Error Value :=
  match decodeAt s (4 * s.size + 64) 128 sh 0 with
  | .error (e, _) => .error e
  | .ok (v, j) =>
    let k := skipBlank s j
    if k < s.size then .error (peekErr s k .trailingCharacters) else .ok v

def parseText (s : ByteArray) : Except Error Value := decodeText .any s

/-! ### Reading from a parsed value -/

/-- A record from the members of an object, visited in key order. -/
def fieldsOfMembers (dec : Shape → Value → Except String Value)
    (fields : List (String × Shape × Option Value)) :
    List (String × Value) → List (String × Value) → Except String (List (String × Value))
  | [], found => finishFields found fields
  | (k, v) :: ms, found =>
    match fields.find? (·.1 == k) with
    | some (_, sh, _) =>
      match dec sh v with
      | .error m => .error m
      | .ok w => fieldsOfMembers dec fields ms ((k, w) :: found)
    | none => fieldsOfMembers dec fields ms found

/-- A record from the items of an array, one per field in order. -/
def fieldsOfItems (dec : Shape → Value → Except String Value) (name : String) (total : Nat) :
    List (String × Shape × Option Value) → Nat → List Value → Except String (List (String × Value))
  | [], _, _ => .ok []
  | (field, sh, dflt) :: rest, index, items =>
    let here : Except String Value :=
      match items, dflt with
      | v :: _, _ => dec sh v
      | [], some d => .ok d
      | [], none => .error (invalidLength index (recordLength name total))
    match here with
    | .error m => .error m
    | .ok w =>
      match fieldsOfItems dec name total rest (index + 1) items.tail with
      | .error m => .error m
      | .ok ws => .ok ((field, w) :: ws)

/-- Reads a parsed value as shape `sh`, looking at most `fuel` levels deep. -/
def decodeValueAt : Nat → Shape → Value → Except String Value
  | 0, _, _ => .error "recursion limit exceeded"
  | fuel + 1, sh, v =>
    match sh, v with
    | .any, v => .ok v
    | .text, .str t => .ok (.str t)
    | .textAs _ f, .str t => f t
    | .int64, .num n => int64OfNumber n
    | .flag, .bool b => .ok (.bool b)
    | .optional _, .null => .ok .null
    | .optional inner, v => decodeValueAt fuel inner v
    | .checked inner check, v =>
      match decodeValueAt fuel inner v with
      | .ok w => check w
      | .error m => .error m
    | .list item, .arr xs => (xs.mapM (decodeValueAt fuel item)).map .arr
    | .dict item, .obj ms =>
      (ms.mapM fun (m : String × Value) => (decodeValueAt fuel item m.2).map fun w => (m.1, w)).map .obj
    | .record _ fields, .obj ms => (fieldsOfMembers (decodeValueAt fuel) fields ms []).map .obj
    | .record name fields, .arr xs =>
      match fieldsOfItems (decodeValueAt fuel) name fields.length fields 0 xs with
      | .error m => .error m
      | .ok ws =>
        if xs.length > fields.length then
          .error (invalidLength xs.length "fewer elements in array")
        else .ok (.obj ws)
    | .word names, .str t => pickWord names t
    | .word names, .obj [(k, x)] =>
      match pickWord names k with
      | .error m => .error m
      | .ok w =>
        match x with
        | .null => .ok w
        | x => .error (invalidType x.unexpected "unit")
    | .word _, .obj _ => .error (invalidValue "map" "map with a single key")
    | .word _, v => .error (invalidType v.unexpected "string or map")
    | sh, v => .error (invalidType v.unexpected sh.expecting)

def decodeValue (sh : Shape) (v : Value) : Except String Value := decodeValueAt 1024 sh v

end Fulfilment.Json
