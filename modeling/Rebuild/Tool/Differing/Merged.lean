import Rebuild.Text.Format
import Rebuild.Tool.Differing.Shown

/-!
# Files merged by formats

Stretches that are in both files, only in one or changed are each written by a format for groups, in which lines are
written by a format for lines. A format has directives after percent signs: for lines, for the numbers of lines, for
characters, and for a choice between two formats by equal numbers. What is no directive stands for itself.
-/

namespace Rebuild.Tool

open Text

/-- The number of lines before a group, of lines in it and of its last line, by a letter; capitals are for the second
file. -/
def Extents.number? (e : Extents) (letter : Char) : Option Nat :=
  let (start, stop) := if letter.isUpper then (e.second, e.secondStop) else (e.first, e.firstStop)
  match letter.toLower with
  | 'e' => some start
  | 'f' => some (start + 1)
  | 'l' => some stop
  | 'm' => some (stop + 1)
  | 'n' => some (stop - start)
  | _ => none

/-- The character between quotes after a directive, by itself or by octal digits, and what follows. -/
def quotedChar? : Line → Option (Char × Line)
  | '\\' :: rest =>
    let digits := rest.takeWhile (· != '\'')
    if digits.isEmpty || 3 < digits.length || !digits.all fun c => '0' ≤ c && c ≤ '7' then none
    else if digits.length == rest.length then none
    else
      let value := digits.foldl (fun n c => n * 8 + (c.toNat - 48)) 0
      some (Char.ofNat (value % 256), rest.drop (digits.length + 1))
  | c :: '\'' :: rest => if c == '\'' then none else some (c, rest)
  | _ => none

/-- What a directive for a number or a character writes, after its percent sign, and what follows it. -/
def numberDirective? (number? : Char → Option Nat) (format : Line) : Option (Line × Line) := do
  let flags := format.takeWhile fun c => c == '-' || c == '\'' || c == '0'
  let afterFlags := format.drop flags.length
  let width := afterFlags.takeWhile Char.isDigit
  let afterWidth := afterFlags.drop width.length
  let (precision, rest) := match afterWidth with
    | '.' :: rest => (some (rest.takeWhile Char.isDigit), rest.dropWhile Char.isDigit)
    | rest => (none, rest)
  match rest with
  | 'c' :: '\'' :: rest => do
    let (c, rest) ← quotedChar? rest
    some ([c], rest)
  | kind :: letter :: rest => do
    if !"doxX".toList.contains kind then none
    let n ← number? letter
    let d : Directive :=
      { flags := flags.filter (· != '\''), width := decimalValue width, precision := precision.map decimalValue
        conversion := kind }
    some (byteChars (d.natural n), rest)
  | _ => none

namespace DiffStyle

/-- A line with a number, counted from one, by a format for lines. -/
def lineText (s : DiffStyle) (number : Nat) (line : Line) (limit : Nat) (format : Line) : Line :=
  match limit, format with
  | limit + 1, '%' :: rest =>
    match rest with
    | '%' :: rest => '%' :: lineText s number line limit rest
    | 'l' :: rest =>
      s.body [] (if line.getLast? == some '\n' then line.dropLast else line) ++ lineText s number line limit rest
    | 'L' :: rest => s.body [] line ++ lineText s number line limit rest
    | _ =>
      match numberDirective? (fun c => if c == 'n' then some number else none) rest with
      | some (text, rest) => text ++ lineText s number line limit rest
      | none => '%' :: lineText s number line limit rest
  | limit + 1, c :: rest => c :: lineText s number line limit rest
  | _, _ => []

/-- Lines from a number on by a format for lines. -/
def linesText (s : DiffStyle) (format : Option Line) (first : Nat) (lines : List Line) : Line :=
  let format := format.getD []
  lines.zipIdx.flatMap fun (line, i) => s.lineText (first + i + 1) line format.length format

/-- A group by a format for groups up to a character that ends it, and what is left of the format from there on. -/
def groupText (s : DiffStyle) (x : Sides) (e : Extents) (stop : Option Char) (limit : Nat) (format : Line) :
    Line × Line :=
  match limit, format with
  | 0, _ | _, [] => ([], [])
  | limit + 1, c :: rest =>
    let also (text : Line) (rest : Line) : Line × Line :=
      let (more, rest) := groupText s x e stop limit rest
      (text ++ more, rest)
    if some c == stop then ([], c :: rest)
    else if c != '%' then also [c] rest
    else
      match rest with
      | '%' :: rest => also ['%'] rest
      | '<' :: rest => also (s.linesText s.lineFormats.gone e.first (x.gone e)) rest
      | '=' :: rest => also (s.linesText s.lineFormats.same e.first (x.gone e)) rest
      | '>' :: rest => also (s.linesText s.lineFormats.new e.second (x.new e)) rest
      | '(' :: choice =>
        let number (format : Line) (after : Char) : Option (Nat × Line) :=
          let digits := format.takeWhile Char.isDigit
          let found := if digits.isEmpty then do
              let letter ← format.head?
              some (← e.number? letter, format.drop 1)
            else some (decimalValue digits, format.drop digits.length)
          found.bind fun (n, rest) => if rest.head? == some after then some (n, rest.drop 1) else none
        match number choice '=' with
        | none => also ['%'] rest
        | some (one, choice) =>
          match number choice '?' with
          | none => also ['%'] rest
          | some (two, choice) =>
            let (yes, after) := groupText s x e (some ':') limit choice
            let (no, after) := groupText s x e (some ')') limit (after.drop 1)
            also (if one == two then yes else no) (after.drop 1)
      | _ =>
        match numberDirective? e.number? rest with
        | some (text, rest) => also text rest
        | none => also ['%'] rest

/-- A group by a format for groups. -/
def groupBy (s : DiffStyle) (x : Sides) (format : Option Line) (e : Extents) : Line :=
  let format := format.getD []
  (s.groupText x e none format.length format).1

/-- Two files merged from places on, with the differences that count. -/
def mergedFrom (s : DiffStyle) (x : Sides) (first second : Nat) : List (Hunk × HunkKind) → Line
  | [] =>
    if first < x.first.size || second < x.second.size then
      s.groupBy x s.groupFormats.same ⟨first, x.first.size, second, x.second.size⟩
    else []
  | (h, kind) :: rest =>
    let e := extentsOf [h]
    let format := match kind with
      | .gone => s.groupFormats.gone
      | .new => s.groupFormats.new
      | .changed => s.groupFormats.changed
    (if first < e.first || second < e.second then s.groupBy x s.groupFormats.same ⟨first, e.first, second, e.second⟩
     else []) ++ s.groupBy x format e ++ mergedFrom s x e.firstStop e.secondStop rest

end DiffStyle

end Rebuild.Tool
