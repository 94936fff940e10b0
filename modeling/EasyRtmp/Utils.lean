import Mathlib.Data.List.TakeWhile
import EasyRtmp.Amf
import EasyRtmp.Lib.ByteText

/-!
# `utils.cpp`: URLs

`parseURL` looks for the four separators on the whole string.  Which of them it finds
where is said by `Authority`, of what stands behind the scheme.
-/

set_option autoImplicit false

namespace EasyRtmp

open Lib Lib.ByteCodec AMFValue

inductive ProtoType where
  | rtmp | rtmps | unknown
  deriving DecidableEq, Repr

structure ParsedUrl where
  type : ProtoType := .unknown
  url : Bytes := []
  port : Nat := 1935
  app : Bytes := []
  key : Bytes := []
  deriving DecidableEq, Repr

def ProtoType.name : ProtoType → Bytes
  | .rtmp => ascii "rtmp"
  | .rtmps => ascii "rtmps"
  | .unknown => []

def ProtoType.defaultPort : ProtoType → Nat
  | .rtmps => 443
  | .rtmp | .unknown => 1935

/-- `isspace` of the C locale. -/
def isSpace (byte : UInt8) : Bool := byte = 32 || (9 ≤ byte && byte ≤ 13)

/-- The number at the beginning of a C string.  One that is not an `int` is a fault. -/
def atoi (text : Bytes) : Except Stop Int :=
  let text := (cString text).dropWhile isSpace
  let number : Int :=
    match text with
    | 45 :: rest => -digitsValue (rest.takeWhile isDigit)
    | 43 :: rest => digitsValue (rest.takeWhile isDigit)
    | _ => digitsValue (text.takeWhile isDigit)
  if -2 ^ 31 ≤ number ∧ number < 2 ^ 31 then .ok number else .error .outOfBounds

/-- `url.substr`, which throws where `pos` is behind the end. -/
def substrOf (url : Bytes) (pos count : Nat) : Except Stop Bytes :=
  match substr url pos count with
  | some text => .ok text
  | none => .error .outOfRange

/-- A port is stored in 16 bits, and must not be 0 there. -/
def portOf (portName : Bytes) : Except Stop Nat := do
  let number ← atoi portName
  let port := (number % 2 ^ 16).toNat
  if port = 0 then .error (.rtmpException .badUrl) else .ok port

def protoOf (protoName : Bytes) : Except Stop ProtoType :=
  if protoName = ascii "rtmp" then .ok .rtmp
  else if protoName = ascii "rtmps" then .ok .rtmps
  else .error (.rtmpException .badUrl)

/-- The fields `url` and `port`. -/
def parseHost (url : Bytes) (type : ProtoType) (posProto posApp : Nat) :
    Option Nat → Except Stop (Bytes × Nat)
  | none => do
      let host ← substrOf url (posProto + 3) (subPos (subPos posApp posProto) 3)
      .ok (host, type.defaultPort)
  | some posPort => do
      let portName ← substrOf url (posPort + 1) (subPos (subPos posApp posPort) 1)
      let port ← portOf portName
      let host ← substrOf url (posProto + 3) (subPos (subPos posPort posProto) 3)
      .ok (host, port)

/-- All that follows the test of the scheme.  The position behind `npos` is 0. -/
def parseBehind (url : Bytes) (type : ProtoType) (posProto : Nat) : Except Stop ParsedUrl :=
  let posPort := find (ascii ":") url (posProto + 3)
  let posApp := find (ascii "/") url (posProto + 3)
  let posKey := find (ascii "/") url (posApp.elim 0 (· + 1))
  match posApp, posKey with
  | some posApp, some posKey => do
      let found ← parseHost url type posProto posApp posPort
      let app ← substrOf url (posApp + 1) (subPos (subPos posKey posApp) 1)
      let key ← substrOf url (posKey + 1) url.length
      .ok ⟨type, found.1, found.2, app, key⟩
  | _, _ => .error (.rtmpException .badUrl)

def parseURL (url : Bytes) : Except Stop ParsedUrl :=
  match find (ascii "://") url 0 with
  | none => .error (.rtmpException .badUrl)
  | some posProto =>
      if posProto ≠ 5 ∧ posProto ≠ 4 then .error (.rtmpException .badUrl)
      else do
        let protoName ← substrOf url 0 posProto
        let type ← protoOf protoName
        parseBehind url type posProto

/-! ## The scheme -/

abbrev colon : UInt8 := 58

abbrev slash : UInt8 := 47

/-- A URL up to its host. -/
def opening (type : ProtoType) : Bytes := type.name ++ ascii "://"

theorem ascii_colon : ascii ":" = [colon] := by decide

theorem ascii_slash : ascii "/" = [slash] := by decide

theorem ascii_separator : ascii "://" = colon :: [slash, slash] := by decide

theorem opening_length (type : ProtoType) : (opening type).length = type.name.length + 3 := by
  rw [opening, List.length_append]
  rfl

theorem name_without_colon (type : ProtoType) : colon ∉ type.name := by
  cases type <;> decide

theorem name_length {type : ProtoType} (known : type ≠ .unknown) :
    type.name.length = 5 ∨ type.name.length = 4 := by
  cases type with
  | rtmp => exact Or.inr rfl
  | rtmps => exact Or.inl rfl
  | unknown => exact absurd rfl known

theorem protoOf_name {type : ProtoType} (known : type ≠ .unknown) :
    protoOf type.name = .ok type := by
  cases type with
  | rtmp => rfl
  | rtmps => rfl
  | unknown => exact absurd rfl known

theorem protoOf_ok {protoName : Bytes} {type : ProtoType} (ok : protoOf protoName = .ok type) :
    type ≠ .unknown ∧ protoName = type.name := by
  unfold protoOf at ok
  split at ok
  · cases ok
    exact ⟨by decide, by assumption⟩
  · split at ok
    · cases ok
      exact ⟨by decide, by assumption⟩
    · cases ok

theorem substrOf_middle (front middle back : Bytes) :
    substrOf (front ++ (middle ++ back)) front.length middle.length = .ok middle := by
  rw [substrOf, substr_middle]

theorem find_opening (type : ProtoType) (rest : Bytes) :
    find (ascii "://") (opening type ++ rest) 0 = some type.name.length := by
  have located := find_behind [] (ascii "://") (opening type ++ rest)
  rw [List.nil_append, List.length_nil] at located
  rw [located, opening, List.append_assoc, ascii_separator,
    findFrom_present (name_without_colon type), Nat.zero_add]

theorem parseURL_opening {type : ProtoType} (known : type ≠ .unknown) (rest : Bytes) :
    parseURL (opening type ++ rest) = parseBehind (opening type ++ rest) type type.name.length := by
  have named : substrOf (opening type ++ rest) 0 type.name.length = .ok type.name := by
    rw [opening, List.append_assoc]
    exact substrOf_middle [] type.name _
  have wide : ¬ (type.name.length ≠ 5 ∧ type.name.length ≠ 4) := by
    have length := name_length known
    omega
  simp only [parseURL, find_opening, if_neg wide, named, protoOf_name known, bind, Except.bind]

theorem parseURL_ok {url : Bytes} {parsed : ParsedUrl} (ok : parseURL url = .ok parsed) :
    ∃ type rest, type ≠ .unknown ∧ url = opening type ++ rest := by
  unfold parseURL at ok
  split at ok
  · cases ok
  · rename_i posProto found
    split at ok
    · cases ok
    · rw [find, if_pos (Nat.zero_le _), List.drop_zero] at found
      obtain ⟨front, back, rfl, rfl⟩ := findFrom_found found
      have named : substrOf (front ++ (ascii "://" ++ back)) 0 (0 + front.length) = .ok front := by
        rw [Nat.zero_add]
        exact substrOf_middle [] front _
      rw [named] at ok
      cases proto : protoOf front with
      | error stop =>
          simp only [proto, bind, Except.bind] at ok
          cases ok
      | ok type =>
          obtain ⟨known, rfl⟩ := protoOf_ok proto
          exact ⟨type, back, known, by rw [opening, List.append_assoc]⟩

/-! ## Behind the scheme -/

section Behind

variable {type : ProtoType} {host front app key behind : Bytes}

/-- What lies between a position and a later one. -/
theorem substrOf_between {text front middle back : Bytes} {start stop : Nat}
    (whole : text = front ++ (middle ++ back)) (starts : start = front.length)
    (stops : stop = front.length + middle.length) {count : Nat} (counts : count = stop - start) :
    substrOf text start count = .ok middle := by
  have width : count = middle.length := by omega
  rw [whole, starts, width]
  exact substrOf_middle front middle back

theorem substrOf_rest {text front back : Bytes} {start : Nat} (whole : text = front ++ back)
    (starts : start = front.length) : substrOf text start text.length = .ok back := by
  subst whole starts
  rw [substrOf, substr_within (by rw [List.length_append]; omega), List.drop_left,
    List.take_of_length_le (by rw [List.length_append]; omega)]

theorem subPos_twice {left right : Nat} {gap : Nat} (le : right + gap ≤ left) :
    subPos (subPos left right) gap = left - (right + gap) := by
  rw [subPos_of_le (show right ≤ left by omega), subPos_of_le (by omega)]
  omega

/-- The application and the key, whatever the host and the port. -/
theorem parseBehind_paths (noSlash : slash ∉ front) (noSlash' : slash ∉ app) :
    parseBehind (opening type ++ (front ++ slash :: (app ++ slash :: key))) type type.name.length =
      (do
        let found ← parseHost (opening type ++ (front ++ slash :: (app ++ slash :: key))) type
          type.name.length ((opening type).length + front.length)
          (find (ascii ":") (opening type ++ (front ++ slash :: (app ++ slash :: key)))
            (opening type).length)
        .ok ⟨type, found.1, found.2, app, key⟩) := by
  generalize text : opening type ++ (front ++ slash :: (app ++ slash :: key)) = url
  have atApp : find (ascii "/") url (opening type).length =
      some ((opening type).length + front.length) := by
    rw [← text, ascii_slash]
    exact find_byte (opening type) noSlash
  have upToApp : url = (opening type ++ front ++ [slash]) ++ (app ++ (slash :: key)) := by
    rw [← text]
    simp only [List.append_assoc, List.cons_append, List.nil_append]
  have appLength : (opening type ++ front ++ [slash]).length =
      (opening type).length + front.length + 1 := by
    simp only [List.length_append, List.length_singleton]
  have atKey : find (ascii "/") url ((opening type).length + front.length + 1) =
      some ((opening type).length + front.length + 1 + app.length) := by
    rw [upToApp, ascii_slash, ← appLength]
    exact find_byte (opening type ++ front ++ [slash]) noSlash'
  have upToKey : url = (opening type ++ front ++ [slash] ++ app ++ [slash]) ++ key := by
    rw [upToApp]
    simp only [List.append_assoc, List.cons_append, List.nil_append]
  have appRead : substrOf url ((opening type).length + front.length + 1)
      (subPos (subPos ((opening type).length + front.length + 1 + app.length)
        ((opening type).length + front.length)) 1) = .ok app := by
    rw [subPos_twice (by omega)]
    exact substrOf_between upToApp appLength.symm (by rw [appLength]) rfl
  have keyRead : substrOf url ((opening type).length + front.length + 1 + app.length + 1)
      url.length = .ok key :=
    substrOf_rest upToKey (by simp only [List.length_append, List.length_singleton])
  unfold parseBehind
  rw [← opening_length, atApp]
  simp only [Option.elim, atKey, appRead, keyRead, bind, Except.bind]

theorem parseBehind_plain (noSlash : slash ∉ host) (noSlash' : slash ∉ app)
    (noColon : colon ∉ host ++ slash :: (app ++ slash :: key)) :
    parseBehind (opening type ++ (host ++ slash :: (app ++ slash :: key))) type type.name.length =
      .ok ⟨type, host, type.defaultPort, app, key⟩ := by
  have atPort := find_byte_absent (opening type) noColon
  have hostRead : substrOf (opening type ++ (host ++ slash :: (app ++ slash :: key)))
      (type.name.length + 3)
      (subPos (subPos ((opening type).length + host.length) type.name.length) 3) = .ok host := by
    have length := opening_length type
    rw [subPos_twice (by omega)]
    exact substrOf_between rfl length.symm rfl (by omega)
  rw [parseBehind_paths noSlash noSlash', ascii_colon, atPort, parseHost, hostRead]
  rfl

theorem parseBehind_port {portName : Bytes} (noColon : colon ∉ host) (noSlash : slash ∉ host)
    (noSlash' : slash ∉ portName) (noSlash'' : slash ∉ app) :
    parseBehind (opening type ++ ((host ++ colon :: portName) ++ slash :: (app ++ slash :: key)))
        type type.name.length = (do
      let port ← portOf portName
      .ok ⟨type, host, port, app, key⟩) := by
  have front : slash ∉ host ++ colon :: portName := by
    simp only [List.mem_append, List.mem_cons, not_or]
    exact ⟨noSlash, by decide, noSlash'⟩
  have length := opening_length type
  rw [parseBehind_paths front noSlash'']
  generalize text : opening type ++ ((host ++ colon :: portName) ++ slash :: (app ++ slash :: key))
    = url
  have atColon : url = opening type ++ (host ++ colon :: (portName ++ slash ::
      (app ++ slash :: key))) := by
    rw [← text]
    simp only [List.append_assoc, List.cons_append]
  have atPort : find (ascii ":") url (opening type).length =
      some ((opening type).length + host.length) := by
    rw [atColon, ascii_colon]
    exact find_byte (opening type) noColon
  have upToPort : url = (opening type ++ host ++ [colon]) ++ (portName ++ slash ::
      (app ++ slash :: key)) := by
    rw [atColon]
    simp only [List.append_assoc, List.cons_append, List.nil_append]
  have width : (host ++ colon :: portName).length = host.length + 1 + portName.length := by
    rw [List.length_append, List.length_cons]
    omega
  have portRead : substrOf url ((opening type).length + host.length + 1)
      (subPos (subPos ((opening type).length + (host ++ colon :: portName).length)
        ((opening type).length + host.length)) 1) = .ok portName := by
    rw [subPos_twice (by omega), width]
    refine substrOf_between upToPort ?_ rfl ?_
    · simp only [List.length_append, List.length_singleton]
    · simp only [List.length_append, List.length_singleton]
      omega
  have hostRead : substrOf url (type.name.length + 3)
      (subPos (subPos ((opening type).length + host.length) type.name.length) 3) = .ok host := by
    rw [subPos_twice (by omega)]
    exact substrOf_between atColon length.symm rfl (by omega)
  rw [atPort, parseHost, portRead, hostRead]
  cases port : portOf portName with
  | error stop => simp only [port, bind, Except.bind]
  | ok number => simp only [port, bind, Except.bind]

/-- A colon behind the first slash is taken for that of a port. -/
theorem parseBehind_late {before : Bytes} (noColon : colon ∉ before) (noSlash : slash ∉ front)
    (noSlash' : slash ∉ app)
    (same : front ++ slash :: (app ++ slash :: key) = before ++ colon :: behind)
    {parsed : ParsedUrl}
    (ok : parseBehind (opening type ++ (front ++ slash :: (app ++ slash :: key))) type
      type.name.length = .ok parsed) : parsed.url = before := by
  have length := opening_length type
  rw [parseBehind_paths noSlash noSlash', same] at ok
  have atPort : find (ascii ":") (opening type ++ (before ++ colon :: behind))
      (opening type).length = some ((opening type).length + before.length) := by
    rw [ascii_colon]
    exact find_byte (opening type) noColon
  have hostRead : substrOf (opening type ++ (before ++ colon :: behind)) (type.name.length + 3)
      (subPos (subPos ((opening type).length + before.length) type.name.length) 3) =
        .ok before := by
    rw [subPos_twice (by omega)]
    exact substrOf_between rfl length.symm rfl (by omega)
  rw [atPort, parseHost, hostRead] at ok
  generalize substrOf _ ((opening type).length + before.length + 1) _ = portName at ok
  cases portName with
  | error stop => cases ok
  | ok portName =>
      cases port : portOf portName with
      | error stop =>
          simp only [port, bind, Except.bind] at ok
          cases ok
      | ok number =>
          simp only [port, bind, Except.bind] at ok
          cases ok
          rfl

/-- What is parsed has two slashes behind the scheme. -/
theorem parseBehind_ok {rest : Bytes} {parsed : ParsedUrl}
    (ok : parseBehind (opening type ++ rest) type type.name.length = .ok parsed) :
    ∃ front app key, rest = front ++ slash :: (app ++ slash :: key) ∧ slash ∉ front ∧
      slash ∉ app := by
  unfold parseBehind at ok
  rw [← opening_length, ascii_slash] at ok
  by_cases first : slash ∈ rest
  · obtain ⟨front, later, rfl, noSlash⟩ := List.eq_append_cons_of_mem first
    have atApp := @find_byte slash front later (opening type) noSlash
    by_cases second : slash ∈ later
    · obtain ⟨app, key, rfl, noSlash'⟩ := List.eq_append_cons_of_mem second
      exact ⟨front, app, key, rfl, noSlash, noSlash'⟩
    · have upToApp : opening type ++ (front ++ slash :: later) =
          (opening type ++ front ++ [slash]) ++ later := by
        simp only [List.append_assoc, List.cons_append, List.nil_append]
      have noKey := find_byte_absent (opening type ++ front ++ [slash]) second
      rw [← upToApp] at noKey
      simp only [List.length_append, List.length_singleton] at noKey
      simp only [atApp, Option.elim, noKey] at ok
      cases ok
  · have noApp := find_byte_absent (opening type) first
    simp only [noApp, Option.elim] at ok
    cases ok

end Behind

/-! ## Ports -/

theorem isDigit_iff {byte : UInt8} : isDigit byte = true ↔ 48 ≤ byte ∧ byte ≤ 57 := by
  rw [isDigit, Bool.and_eq_true, decide_eq_true_eq, decide_eq_true_eq]

theorem cString_digits {digits : Bytes} (each : ∀ byte ∈ digits, isDigit byte = true) :
    cString digits = digits := by
  refine List.takeWhile_eq_self_iff.mpr fun byte member => decide_eq_true ?_
  rintro rfl
  exact absurd (each 0 member) (by decide)

/-- A digit is neither a space nor a sign. -/
theorem atoi_digits {digits : Bytes} (each : ∀ byte ∈ digits, isDigit byte = true) :
    atoi digits = if digitsValue digits < 2 ^ 31 then .ok (digitsValue digits : Int)
      else .error .outOfBounds := by
  have all : digits.takeWhile isDigit = digits := List.takeWhile_eq_self_iff.mpr each
  have number : atoi digits = if -2 ^ 31 ≤ (digitsValue digits : Int) ∧
      (digitsValue digits : Int) < 2 ^ 31 then .ok (digitsValue digits : Int)
      else .error .outOfBounds := by
    cases digits with
    | nil => rfl
    | cons first rest =>
        have isFirst := each first (List.mem_cons_self ..)
        have notSpace : isSpace first = false := by
          have range := isDigit_iff.mp isFirst
          have differs : first ≠ 32 := by
            rintro rfl
            exact absurd range.1 (by decide)
          have above : ¬ first ≤ 13 := fun low => absurd (UInt8.le_trans range.1 low) (by decide)
          rw [isSpace, decide_eq_false differs, decide_eq_false above, Bool.and_false,
            Bool.false_or]
        have skip : (first :: rest).dropWhile isSpace = first :: rest :=
          List.dropWhile_cons_of_neg (by rw [notSpace]; exact Bool.false_ne_true)
        unfold atoi
        rw [cString_digits each, skip]
        dsimp only
        split
        · rename_i same
          cases same
          exact absurd isFirst (by decide)
        · rename_i same
          cases same
          exact absurd isFirst (by decide)
        · rw [all]
  rw [number]
  refine if_congr ?_ rfl rfl
  omega

/-- A port of decimal digits is stored modulo `2 ^ 16`. -/
theorem portOf_digits {digits : Bytes} (each : ∀ byte ∈ digits, isDigit byte = true) :
    portOf digits = if digitsValue digits < 2 ^ 31 then
        if digitsValue digits % 2 ^ 16 = 0 then .error (.rtmpException .badUrl)
        else .ok (digitsValue digits % 2 ^ 16)
      else .error .outOfBounds := by
  rw [portOf, atoi_digits each]
  split_ifs with small zero
  · show (if ((digitsValue digits : Int) % 2 ^ 16).toNat = 0 then _ else _) = _
    rw [if_pos (by omega)]
  · show (if ((digitsValue digits : Int) % 2 ^ 16).toNat = 0 then _ else _) = _
    have stored : ((digitsValue digits : Int) % 2 ^ 16).toNat = digitsValue digits % 2 ^ 16 := by
      omega
    rw [stored, if_neg zero]
  · rfl

/-! ## Written URLs -/

/-- How a port is written, if it is. -/
def portPart : Option Bytes → Bytes
  | none => []
  | some digits => colon :: digits

def writeURL (type : ProtoType) (host : Bytes) (port : Option Nat) (app key : Bytes) : Bytes :=
  opening type ++ (host ++ portPart (port.map decimal) ++ slash :: (app ++ slash :: key))

theorem slash_notMem_decimal (number : Nat) : slash ∉ decimal number :=
  fun member => absurd (decimal_isDigit number slash member) (by decide)

/-- The first colon of a URL that has none in front of its path. -/
theorem colon_in_path {front path : Bytes} (noColon : colon ∉ front) (inPath : colon ∈ path) :
    ∃ before behind, front ++ slash :: path = before ++ colon :: behind ∧ colon ∉ before ∧
      slash ∈ before := by
  obtain ⟨before, behind, rfl, noColon'⟩ := List.eq_append_cons_of_mem inPath
  refine ⟨front ++ slash :: before, behind, ?_, ?_, ?_⟩
  · rw [List.append_assoc, List.cons_append]
  · simp only [List.mem_append, List.mem_cons, not_or]
    exact ⟨noColon, by decide, noColon'⟩
  · exact List.mem_append_right _ (List.mem_cons_self ..)

/-- A written URL is parsed back unless a colon of its path is taken for that of a port. -/
theorem parse_written_iff {type : ProtoType} (known : type ≠ .unknown) {host : Bytes}
    (noSlash : slash ∉ host) (noColon : colon ∉ host) {port : Option Nat}
    (range : ∀ number ∈ port, 1 ≤ number ∧ number ≤ 65535) {app : Bytes} (noSlash' : slash ∉ app)
    (key : Bytes) :
    parseURL (writeURL type host port app key) =
        .ok ⟨type, host, port.getD type.defaultPort, app, key⟩ ↔
      port.isSome ∨ (colon ∉ app ∧ colon ∉ key) := by
  rw [writeURL, parseURL_opening known]
  cases port with
  | some number =>
      obtain ⟨positive, small⟩ := range number rfl
      refine iff_of_true ?_ (Or.inl rfl)
      rw [Option.map_some, portPart,
        parseBehind_port noColon noSlash (slash_notMem_decimal number) noSlash',
        portOf_digits (decimal_isDigit number), digitsValue_decimal, if_pos (by omega),
        Nat.mod_eq_of_lt (by omega), if_neg (by omega)]
      rfl
  | none =>
      rw [Option.map_none, portPart, List.append_nil]
      by_cases path : colon ∉ app ∧ colon ∉ key
      · refine iff_of_true ?_ (Or.inr path)
        refine parseBehind_plain noSlash noSlash' ?_
        simp only [List.mem_append, List.mem_cons, not_or]
        exact ⟨noColon, by decide, path.1, by decide, path.2⟩
      · refine iff_of_false ?_ (fun condition => condition.elim Bool.false_ne_true path)
        intro ok
        have inPath : colon ∈ app ++ slash :: key := by
          simp only [List.mem_append, List.mem_cons]
          by_contra none
          simp only [not_or] at none
          exact path ⟨none.1, none.2.2⟩
        obtain ⟨before, behind, same, noColon', inHost⟩ := colon_in_path noColon inPath
        have url := parseBehind_late noColon' noSlash noSlash' same ok
        exact noSlash (by rwa [show host = before from url])

/-- A key with a colon in it behind a written port. -/
theorem colon_behind_port_parsed :
    parseURL (writeURL .rtmp (ascii "h") (some 80) (ascii "a") (ascii "k:1")) =
      .ok ⟨.rtmp, ascii "h", 80, ascii "a", ascii "k:1"⟩ :=
  (parse_written_iff (by decide) (by decide) (by decide) (by decide) (by decide) _).mpr
    (Or.inl rfl)

/-- Without one, the path up to the colon becomes part of the host. -/
theorem colon_in_key_misparsed :
    writeURL .rtmp (ascii "h") none (ascii "a") (ascii "k:1") = ascii "rtmp://h/a/k:1" ∧
    parseURL (ascii "rtmp://h/a/k:1") =
      .ok ⟨.rtmp, ascii "h/a/k", 1, ascii "a", ascii "k:1"⟩ ∧
    parseURL (ascii "rtmp://h/a/k:1") ≠
      .ok ⟨.rtmp, ascii "h", ProtoType.rtmp.defaultPort, ascii "a", ascii "k:1"⟩ := by
  have parsed : parseURL (ascii "rtmp://h/a/k:1") =
      .ok ⟨.rtmp, ascii "h/a/k", 1, ascii "a", ascii "k:1"⟩ := by decide +kernel
  refine ⟨by decide +kernel, parsed, ?_⟩
  rw [parsed]
  decide +kernel

/-! ## Accepted URLs -/

/-- The URL is one of the parsed fields, with a port of decimal digits or without one. -/
def WrittenAs (url : Bytes) (parsed : ParsedUrl) : Prop :=
  parsed.type ≠ .unknown ∧ slash ∉ parsed.url ∧ slash ∉ parsed.app ∧
    ∃ digits : Option Bytes,
      url = opening parsed.type ++
        (parsed.url ++ portPart digits ++ slash :: (parsed.app ++ slash :: parsed.key)) ∧
      ∀ text ∈ digits, (∀ byte ∈ text, isDigit byte = true) ∧ digitsValue text = parsed.port

/-- The port that is written is the parsed one. -/
theorem WrittenAs.port {type : ProtoType} {host portName app key : Bytes} {number : Nat}
    (written : WrittenAs (opening type ++ (host ++ portPart (some portName) ++
      slash :: (app ++ slash :: key))) ⟨type, host, number, app, key⟩) :
    (∀ byte ∈ portName, isDigit byte = true) ∧ digitsValue portName = number := by
  obtain ⟨-, -, -, digits, same, each⟩ := written
  rw [List.append_cancel_left_eq, List.append_cancel_right_eq, List.append_cancel_left_eq] at same
  cases digits with
  | none => cases same
  | some text =>
      obtain rfl : portName = text := List.tail_eq_of_cons_eq same
      exact each portName rfl

def behindScheme (url : Bytes) : Bytes :=
  match find (ascii "://") url 0 with
  | some posProto => url.drop (posProto + 3)
  | none => []

/-- What stands between the first colon and the next slash. -/
def portField (rest : Bytes) : Bytes :=
  ((rest.dropWhile (· ≠ colon)).drop 1).takeWhile (· ≠ slash)

/-- The first colon, if there is one, is in front of the first slash, and a number that
16 bits hold is between the two. -/
def PortPlain (rest : Bytes) : Prop :=
  colon ∈ rest → slash ∉ rest.takeWhile (· ≠ colon) ∧
    (∀ byte ∈ portField rest, isDigit byte = true) ∧ digitsValue (portField rest) ≤ 65535

theorem behindScheme_opening (type : ProtoType) (rest : Bytes) :
    behindScheme (opening type ++ rest) = rest := by
  rw [behindScheme, find_opening]
  exact List.drop_left' (opening_length type)

section Splitting
variable {byte : UInt8} {before behind : Bytes}

theorem takeWhile_first (absent : byte ∉ before) :
    (before ++ byte :: behind).takeWhile (· ≠ byte) = before := by
  have all : ∀ other ∈ before, decide (other ≠ byte) = true := by
    intro other member
    refine decide_eq_true ?_
    rintro rfl
    exact absent member
  rw [List.takeWhile_append_of_pos all, List.takeWhile_cons_of_neg (by simp), List.append_nil]

theorem dropWhile_first (absent : byte ∉ before) :
    (before ++ byte :: behind).dropWhile (· ≠ byte) = byte :: behind := by
  have whole := @List.takeWhile_append_dropWhile _ (fun other => decide (other ≠ byte))
    (before ++ byte :: behind)
  rw [takeWhile_first absent] at whole
  exact List.append_cancel_left whole

end Splitting

/-- Where the port is written in front of the path. -/
theorem portPlain_port {host portName later : Bytes} (noColon : colon ∉ host)
    (noSlash : slash ∉ host) (noSlash' : slash ∉ portName) :
    PortPlain (host ++ colon :: (portName ++ slash :: later)) ↔
      (∀ byte ∈ portName, isDigit byte = true) ∧ digitsValue portName ≤ 65535 := by
  have field : portField (host ++ colon :: (portName ++ slash :: later)) = portName := by
    rw [portField, dropWhile_first noColon, List.drop_one, List.tail_cons,
      takeWhile_first noSlash']
  rw [PortPlain, takeWhile_first noColon, field]
  constructor
  · exact fun plain => (plain (List.mem_append_right _ (List.mem_cons_self ..))).2
  · exact fun digits _ => ⟨noSlash, digits⟩

theorem parse_sound_iff {url : Bytes} {parsed : ParsedUrl} (ok : parseURL url = .ok parsed) :
    WrittenAs url parsed ↔ PortPlain (behindScheme url) := by
  obtain ⟨type, rest, known, rfl⟩ := parseURL_ok ok
  rw [parseURL_opening known] at ok
  obtain ⟨front, app, key, rfl, noSlash, noSlash'⟩ := parseBehind_ok ok
  rw [behindScheme_opening]
  by_cases inFront : colon ∈ front
  · obtain ⟨host, portName, rfl, noColon⟩ := List.eq_append_cons_of_mem inFront
    simp only [List.mem_append, List.mem_cons, not_or] at noSlash
    obtain ⟨hostSlash, -, portSlash⟩ := noSlash
    have later : (host ++ colon :: portName) ++ slash :: (app ++ slash :: key) =
        host ++ colon :: (portName ++ slash :: (app ++ slash :: key)) := by
      rw [List.append_assoc, List.cons_append]
    rw [parseBehind_port noColon hostSlash portSlash noSlash'] at ok
    rw [later, portPlain_port noColon hostSlash portSlash]
    cases port : portOf portName with
    | error stop =>
        rw [port] at ok
        cases ok
    | ok number =>
        rw [port] at ok
        cases ok
        constructor
        · intro written
          rw [← later] at written
          obtain ⟨isDigits, value⟩ := written.port
          refine ⟨isDigits, ?_⟩
          rw [portOf_digits isDigits] at port
          split_ifs at port
          have stored := Except.ok.inj port
          omega
        · rintro ⟨isDigits, small⟩
          rw [portOf_digits isDigits, if_pos (by omega), Nat.mod_eq_of_lt (by omega)] at port
          split at port
          · cases port
          · refine ⟨known, hostSlash, noSlash', some portName, by rw [← later]; rfl, ?_⟩
            rintro text ⟨rfl⟩
            exact ⟨isDigits, Except.ok.inj port⟩
  · by_cases inPath : colon ∈ app ++ slash :: key
    · obtain ⟨before, behind, same, noColon, inHost⟩ := colon_in_path inFront inPath
      have host := parseBehind_late noColon noSlash noSlash' same ok
      refine iff_of_false ?_ ?_
      · rintro ⟨-, noSlash'', -⟩
        exact noSlash'' (host ▸ inHost)
      · intro plain
        rw [same] at plain
        have early := (plain (List.mem_append_right _ (List.mem_cons_self ..))).1
        rw [takeWhile_first noColon] at early
        exact early inHost
    · have noColon : colon ∉ front ++ slash :: (app ++ slash :: key) := by
        simp only [List.mem_append, List.mem_cons, not_or] at inPath ⊢
        exact ⟨inFront, by decide, inPath⟩
      rw [parseBehind_plain noSlash noSlash' noColon] at ok
      cases ok
      refine iff_of_true ⟨known, noSlash, noSlash', none, ?_, ?_⟩ ?_
      · rw [portPart, List.append_nil]
      · exact fun text written => absurd written (Option.not_mem_none text)
      · exact fun inRest => absurd inRest noColon

theorem plain_port_accepted :
    WrittenAs (ascii "rtmps://h:80/a/k") ⟨.rtmps, ascii "h", 80, ascii "a", ascii "k"⟩ := by
  have parsed : parseURL (ascii "rtmps://h:80/a/k") =
      .ok ⟨.rtmps, ascii "h", 80, ascii "a", ascii "k"⟩ := by decide +kernel
  refine (parse_sound_iff parsed).mpr fun _ => ?_
  exact ⟨by decide +kernel, by decide +kernel, by decide +kernel⟩

/-- 65616 is stored as 80. -/
theorem large_port_accepted :
    parseURL (ascii "rtmp://h:65616/a/k") = .ok ⟨.rtmp, ascii "h", 80, ascii "a", ascii "k"⟩ ∧
    ¬ WrittenAs (ascii "rtmp://h:65616/a/k") ⟨.rtmp, ascii "h", 80, ascii "a", ascii "k"⟩ := by
  refine ⟨by decide +kernel, fun written => ?_⟩
  have same : ascii "rtmp://h:65616/a/k" = opening .rtmp ++ (ascii "h" ++
      portPart (some (ascii "65616")) ++ slash :: (ascii "a" ++ slash :: ascii "k")) := by
    decide +kernel
  rw [same] at written
  exact absurd written.port.2 (by decide +kernel)

end EasyRtmp
