/-
# ControlLink.Json.Parser — reading documents from bytes

A recursive descent over the bytes of a text. A `ParseError` names the first thing that is wrong.
Nesting is limited to `depthLimit`. Strings are checked to be UTF-8 when their closing quote is
reached. A number with a fraction or an exponent is a 64-bit significand scaled by one power of
ten: digits that do not fit the significand are dropped, and the scaling rounds once more.

The functions over values take fuel for the calls inside each other; every such call is made after
at least one byte was taken, so the fuel of `parse`, one more than there are bytes, never runs out.
-/
import ControlLink.Json.Value
import ControlLink.Text.Hex
import ControlLink.Text.Utf8

namespace ControlLink.Json

set_option autoImplicit false

open Decimal

inductive ParseError where
  | endInValue
  | endInList
  | endInObject
  | endInString
  | expectedValue
  | expectedIdent
  | expectedColon
  | expectedListCommaOrEnd
  | expectedObjectCommaOrEnd
  | keyMustBeString
  | trailingComma
  | trailingCharacters
  | invalidNumber
  | numberOutOfRange
  | controlCharacter
  | invalidEscape
  | loneSurrogate
  | unpairedSurrogate
  | invalidCodePoint
  | tooDeep
deriving DecidableEq

def ParseError.message : ParseError → String
  | endInValue => "EOF while parsing a value"
  | endInList => "EOF while parsing a list"
  | endInObject => "EOF while parsing an object"
  | endInString => "EOF while parsing a string"
  | expectedValue => "expected value"
  | expectedIdent => "expected ident"
  | expectedColon => "expected `:`"
  | expectedListCommaOrEnd => "expected `,` or `]`"
  | expectedObjectCommaOrEnd => "expected `,` or `\x7d`"
  | keyMustBeString => "key must be a string"
  | trailingComma => "trailing comma"
  | trailingCharacters => "trailing characters"
  | invalidNumber => "invalid number"
  | numberOutOfRange => "number out of range"
  | controlCharacter => "control character (\\u0000-\\u001F) found while parsing a string"
  | invalidEscape => "invalid escape"
  | loneSurrogate => "lone leading surrogate in hex escape"
  | unpairedSurrogate => "unexpected end of hex escape"
  | invalidCodePoint => "invalid unicode code point"
  | tooDeep => "recursion limit exceeded"

/-- How many arrays and objects may be nested in each other. -/
def depthLimit : Nat := 127

/-- Space, tab, line feed and carriage return. -/
def isBlank (b : UInt8) : Bool := b == 0x20 || b == 0x09 || b == 0x0A || b == 0x0D

def skipBlanks (input : Bytes) : Bytes := input.dropWhile isBlank

/-- Takes the given letters from the front. -/
def word (letters input : Bytes) : Except ParseError Bytes :=
  match letters, input with
  | [], rest => .ok rest
  | _ :: _, [] => .error .endInValue
  | letter :: letters, b :: rest =>
    if b = letter then word letters rest else .error .expectedIdent

/-! ## Strings -/

/-- The value of four hexadecimal digits. -/
def hexFour? (a b c d : UInt8) : Option Nat := do
  let value (x : UInt8) : Option Nat := Text.Hex.digit? (Char.ofNat x.toNat)
  return ((← value a) * 16 + (← value b)) * 256 + ((← value c) * 16 + (← value d))

/-- The four digits after `\u`. -/
def hexEscape : Bytes → Except ParseError (Nat × Bytes)
  | a :: b :: c :: d :: rest =>
    match hexFour? a b c d with
    | some value => .ok (value, rest)
    | none => .error .invalidEscape
  | _ => .error .endInString

/-- The second half of a surrogate pair whose first half is `high`. -/
def lowSurrogate (high : Nat) : Bytes → Except ParseError (Char × Bytes)
  | [] => .error .endInString
  | b :: rest =>
    if b ≠ '\\'.toUInt8 then .error .unpairedSurrogate
    else
      match rest with
      | [] => .error .endInString
      | b :: rest =>
        if b ≠ 'u'.toUInt8 then .error .unpairedSurrogate
        else
          match hexEscape rest with
          | .error error => .error error
          | .ok (low, rest) =>
            if 0xDC00 ≤ low ∧ low ≤ 0xDFFF then
              .ok (Char.ofNat (0x10000 + (high - 0xD800) * 0x400 + (low - 0xDC00)), rest)
            else .error .loneSurrogate

/-- The character of a `\u` escape whose backslash and letter are gone. -/
def unicodeEscape (input : Bytes) : Except ParseError (Char × Bytes) :=
  match hexEscape input with
  | .error error => .error error
  | .ok (value, rest) =>
    if 0xDC00 ≤ value ∧ value ≤ 0xDFFF then .error .loneSurrogate
    else if 0xD800 ≤ value ∧ value ≤ 0xDBFF then lowSurrogate value rest
    else .ok (Char.ofNat value, rest)

/-- The character after a backslash, but for `u`. -/
def shortEscape? (b : UInt8) : Option Char :=
  match Char.ofNat b.toNat with
  | '"' => some '"'
  | '\\' => some '\\'
  | '/' => some '/'
  | 'b' => some '\x08'
  | 'f' => some '\x0c'
  | 'n' => some '\n'
  | 'r' => some '\r'
  | 't' => some '\t'
  | _ => none

/-- The character of an escape whose backslash is gone. -/
def escaped : Bytes → Except ParseError (Char × Bytes)
  | [] => .error .endInString
  | b :: rest =>
    if b = 'u'.toUInt8 then unicodeEscape rest
    else
      match shortEscape? b with
      | some c => .ok (c, rest)
      | none => .error .invalidEscape

/-- The bytes of a string up to its closing quote, after those read so far, the last first. -/
def stringBytes (fuel : Nat) (done input : Bytes) : Except ParseError (Bytes × Bytes) :=
  match fuel, input with
  | 0, _ => .error .endInString
  | _, [] => .error .endInString
  | fuel + 1, b :: rest =>
    if b = '"'.toUInt8 then .ok (done.reverse, rest)
    else if b = '\\'.toUInt8 then
      match escaped rest with
      | .error error => .error error
      | .ok (c, rest) => stringBytes fuel ((String.utf8EncodeChar c).reverse ++ done) rest
    else if b < 0x20 then .error .controlCharacter
    else stringBytes fuel (b :: done) rest

/-- A string whose opening quote is gone. -/
def stringBody (input : Bytes) : Except ParseError (String × Bytes) :=
  match stringBytes input.length [] input with
  | .error error => .error error
  | .ok (bytes, rest) =>
    match Text.Utf8.decode? bytes with
    | some text => .ok (String.ofList text, rest)
    | none => .error .invalidCodePoint

/-! ## Numbers -/

def isDigitByte (b : UInt8) : Bool := '0'.toUInt8 ≤ b && b ≤ '9'.toUInt8

/-- The digits at the front, as numbers, and the rest. -/
def takeDigits (input : Bytes) : List Nat × Bytes :=
  ((input.takeWhile isDigitByte).map (·.toNat - 48), input.dropWhile isDigitByte)

/-- Appends digits to a significand as long as it fits 64 bits; also how many do not. -/
def appendDigits (significand : Nat) : List Nat → Nat × Nat
  | [] => (significand, 0)
  | digit :: rest =>
    if significand * 10 + digit < 1 <<< 64 then appendDigits (significand * 10 + digit) rest
    else (significand, rest.length + 1)

/-- Scales by a power of ten. Powers beyond the largest constant are taken in steps. -/
def scale (fuel : Nat) (x : Binary64) (exponent : Int) : Except ParseError Binary64 :=
  match fuel with
  | 0 => .ok x
  | fuel + 1 =>
    if exponent.natAbs ≤ 308 then
      if 0 ≤ exponent then
        let scaled := x.mul (.powerOfTen exponent.natAbs)
        if scaled.isFinite then .ok scaled else .error .numberOutOfRange
      else .ok (x.div (.powerOfTen exponent.natAbs))
    else if x.isZero then .ok x
    else if 0 ≤ exponent then .error .numberOutOfRange
    else scale fuel (x.div (.powerOfTen 308)) (exponent + 308)

/-- The number `significand * 10 ^ exponent`. -/
def realNumber (negative : Bool) (significand : Nat) (exponent : Int) :
    Except ParseError Number :=
  match scale (exponent.natAbs / 308 + 1) (.ofNat significand) exponent with
  | .error error => .error error
  | .ok x =>
    match Number.ofReal? (if negative then x.neg else x) with
    | some result => .ok result
    | none => .error .numberOutOfRange

/-- The largest exponent that is read as a number. -/
def exponentLimit : Nat := 1 <<< 31 - 1

/-- A number whose exponent letter is gone. -/
def exponentPart (negative : Bool) (significand : Nat) (start : Int) (input : Bytes) :
    Except ParseError (Number × Bytes) :=
  let (minus, unsigned) := match input with
    | b :: rest =>
      if b = '+'.toUInt8 then (false, rest)
      else if b = '-'.toUInt8 then (true, rest)
      else (false, input)
    | [] => (false, input)
  match takeDigits unsigned, unsigned with
  | ([], _), [] => .error .endInValue
  | ([], _), _ :: _ => .error .invalidNumber
  | (digits, rest), _ =>
    let exponent := digits.foldl (fun value digit => value * 10 + digit) 0
    if exponentLimit < exponent then
      if significand ≠ 0 ∧ !minus then .error .numberOutOfRange
      else (realNumber negative 0 0).map (·, rest)
    else
      (realNumber negative significand (if minus then start - exponent else start + exponent)).map
        (·, rest)

/-- A number whose point is gone. -/
def fractionPart (negative : Bool) (significand : Nat) (start : Int) (input : Bytes) :
    Except ParseError (Number × Bytes) :=
  match takeDigits input, input with
  | ([], _), [] => .error .endInValue
  | ([], _), _ :: _ => .error .invalidNumber
  | (digits, rest), _ =>
    let (significand, dropped) := appendDigits significand digits
    let exponent : Int := start - (digits.length - dropped : Nat)
    match rest with
    | b :: after =>
      if b = 'e'.toUInt8 ∨ b = 'E'.toUInt8 then exponentPart negative significand exponent after
      else (realNumber negative significand exponent).map (·, rest)
    | [] => (realNumber negative significand exponent).map (·, rest)

/-- A number without fraction and exponent. Minus zero is not an integer. -/
def wholeNumber (negative : Bool) (significand dropped : Nat) : Except ParseError Number :=
  let value : Int := if negative then -significand else significand
  if dropped = 0 ∧ ¬ (negative ∧ significand = 0) then
    match Number.ofInt? value with
    | some result => .ok result
    | none => realNumber negative significand 0
  else realNumber negative significand dropped

/-- What may follow the integer part of a number. -/
def afterInteger (negative : Bool) (significand dropped : Nat) (input : Bytes) :
    Except ParseError (Number × Bytes) :=
  match input with
  | b :: rest =>
    if b = '.'.toUInt8 then fractionPart negative significand dropped rest
    else if b = 'e'.toUInt8 ∨ b = 'E'.toUInt8 then exponentPart negative significand dropped rest
    else (wholeNumber negative significand dropped).map (·, input)
  | [] => (wholeNumber negative significand dropped).map (·, input)

/-- A number whose sign is gone. -/
def unsignedNumber (negative : Bool) (input : Bytes) : Except ParseError (Number × Bytes) :=
  match takeDigits input, input with
  | ([], _), [] => .error .endInValue
  | ([], _), _ :: _ => .error .invalidNumber
  | (0 :: _ :: _, _), _ => .error .invalidNumber
  | (digits, rest), _ =>
    let (significand, dropped) := appendDigits 0 digits
    afterInteger negative significand dropped rest

/-! ## Values -/

mutual

/-- A value with `room` levels of nesting left. -/
def value (fuel room : Nat) (input : Bytes) : Except ParseError (Json × Bytes) :=
  match fuel with
  | 0 => .error .endInValue
  | fuel + 1 =>
    match skipBlanks input with
    | [] => .error .endInValue
    | b :: rest =>
      match Char.ofNat b.toNat with
      | 'n' => (word [0x75, 0x6C, 0x6C] rest).map (null, ·)
      | 't' => (word [0x72, 0x75, 0x65] rest).map (bool true, ·)
      | 'f' => (word [0x61, 0x6C, 0x73, 0x65] rest).map (bool false, ·)
      | '-' => (unsignedNumber true rest).map fun (n, rest) => (number n, rest)
      | '"' => (stringBody rest).map fun (text, rest) => (string text, rest)
      | '[' =>
        match room with
        | 0 => .error .tooDeep
        | room + 1 =>
          match skipBlanks rest with
          | [] => .error .endInList
          | b :: after =>
            if b = ']'.toUInt8 then .ok (array [], after)
            else
              match value fuel room rest with
              | .error error => .error error
              | .ok (first, rest) =>
                (items fuel room [first] rest).map fun (items, rest) => (array items, rest)
      | '\x7b' =>
        match room with
        | 0 => .error .tooDeep
        | room + 1 =>
          match skipBlanks rest with
          | [] => .error .endInObject
          | b :: after =>
            if b = '\x7d'.toUInt8 then .ok (object [], after)
            else if b = '"'.toUInt8 then
              match member fuel room after with
              | .error error => .error error
              | .ok ((key, value), rest) =>
                (members fuel room [(key, value)] rest).map fun (members, rest) =>
                  (object members, rest)
            else .error .keyMustBeString
      | _ =>
        if isDigitByte b then
          (unsignedNumber false (b :: rest)).map fun (n, rest) => (number n, rest)
        else .error .expectedValue
termination_by structural fuel

/-- The rest of an array after the items read so far, the last of them first. -/
def items (fuel room : Nat) (done : List Json) (input : Bytes) :
    Except ParseError (List Json × Bytes) :=
  match fuel with
  | 0 => .error .endInList
  | fuel + 1 =>
    match skipBlanks input with
    | [] => .error .endInList
    | b :: rest =>
      if b = ']'.toUInt8 then .ok (done.reverse, rest)
      else if b = ','.toUInt8 then
        match skipBlanks rest with
        | [] => .error .endInValue
        | next :: _ =>
          if next = ']'.toUInt8 then .error .trailingComma
          else
            match value fuel room rest with
            | .error error => .error error
            | .ok (item, rest) => items fuel room (item :: done) rest
      else .error .expectedListCommaOrEnd
termination_by structural fuel

/-- A member whose opening quote is gone. -/
def member (fuel room : Nat) (input : Bytes) :
    Except ParseError ((String × Json) × Bytes) :=
  match fuel with
  | 0 => .error .endInString
  | fuel + 1 =>
    match stringBody input with
    | .error error => .error error
    | .ok (key, rest) =>
      match skipBlanks rest with
      | [] => .error .endInObject
      | b :: rest =>
        if b = ':'.toUInt8 then
          (value fuel room rest).map fun (value, rest) => ((key, value), rest)
        else .error .expectedColon
termination_by structural fuel

/-- The rest of an object after the members read so far. -/
def members (fuel room : Nat) (done : List (String × Json)) (input : Bytes) :
    Except ParseError (List (String × Json) × Bytes) :=
  match fuel with
  | 0 => .error .endInObject
  | fuel + 1 =>
    match skipBlanks input with
    | [] => .error .endInObject
    | b :: rest =>
      if b = '\x7d'.toUInt8 then .ok (done, rest)
      else if b = ','.toUInt8 then
        match skipBlanks rest with
        | [] => .error .endInValue
        | next :: after =>
          if next = '"'.toUInt8 then
            match member fuel room after with
            | .error error => .error error
            | .ok ((key, value), rest) => members fuel room (insert key value done) rest
          else if next = '\x7d'.toUInt8 then .error .trailingComma
          else .error .keyMustBeString
      else .error .expectedObjectCommaOrEnd
termination_by structural fuel

end

/-- The document that a byte string holds, with nothing but blanks around it. -/
def parse (input : Bytes) : Except ParseError Json :=
  match value (input.length + 1) depthLimit input with
  | .error error => .error error
  | .ok (document, rest) =>
    match skipBlanks rest with
    | [] => .ok document
    | _ :: _ => .error .trailingCharacters

end ControlLink.Json
