import Bindery.CommandLine.Style
import Bindery.Text.CellWidth
import Bindery.Text.Emoji

/-!
# Style tags

Texts for the terminal may hold tags in brackets that begin and end styles, and the names of emoji
between colons. Shown without styles, a text is what is left after the tags. A tag that ends a style
must have one to end.
-/
namespace Bindery.CommandLine

/-! ## Tags -/

/-- A tag: a name and, after an equality sign, parameters. -/
structure Tag where
  name : List Char
  parameters : Option (List Char) := none
  deriving DecidableEq, Repr, Inhabited

def Tag.ofInside (inside : List Char) : Tag where
  name := inside.takeWhile (· ≠ '=')
  parameters := match inside.dropWhile (· ≠ '=') with
    | [] => none
    | _ :: parameters => some parameters

/-- The inside of a tag and what follows it, after its opening bracket. A tag begins with a small
letter or one of three signs, and holds no other bracket. -/
def takeTag? (s : List Char) : Option (List Char × List Char) :=
  match s with
  | [] => none
  | c :: _ =>
    if ('a' ≤ c ∧ c ≤ 'z') ∨ c = '#' ∨ c = '/' ∨ c = '@' then
      let inside := s.takeWhile fun d => d ≠ ']' && d ≠ '['
      match s.drop inside.length with
      | ']' :: rest => some (inside, rest)
      | _ => none
    else none

/-- A piece of a text. -/
inductive Piece where
  | plain (text : List Char)
  | tag (tag : Tag)
  deriving Repr

/-- A tag with backslashes before it. The backslashes escape each other, and an odd one the tag. -/
def taggedPieces (slashes : Nat) (inside : List Char) : List Piece :=
  let kept := Piece.plain (List.replicate (slashes / 2) '\\')
  if slashes % 2 = 1 then [kept, .plain ('[' :: inside ++ [']'])]
  else [kept, .tag (.ofInside inside)]

/-- The pieces of a text; `before` are the plain characters on the way, the last one first. -/
def piecesFrom : Nat → List Char → List Char → List Piece
  | 0, before, s => [.plain (before.reverse ++ s)]
  | _, before, [] => [.plain before.reverse]
  | fuel + 1, before, c :: rest =>
    let slashes := (c :: rest).takeWhile (· = '\\')
    match (c :: rest).drop slashes.length with
    | '[' :: inner =>
      match takeTag? inner with
      | some (inside, after) =>
        .plain before.reverse :: taggedPieces slashes.length inside ++ piecesFrom fuel [] after
      | none => piecesFrom fuel ('[' :: slashes ++ before) inner
    | others =>
      if slashes.isEmpty then piecesFrom fuel (c :: before) rest
      else piecesFrom fuel (slashes ++ before) others

def pieces (text : List Char) : List Piece := piecesFrom (text.length + 1) [] text

/-! ## Plain pieces -/

/-- Brackets that begin no tag may be escaped too. -/
def unescapeBrackets : List Char → List Char
  | [] => []
  | '\\' :: '[' :: rest => '[' :: unescapeBrackets rest
  | c :: rest => c :: unescapeBrackets rest

/-- How an emoji is shown: the end of its name, and a character that says so. -/
def emojiVariants : List (List Char × Char) := [
  ("-text".toList, Char.ofNat 0xfe0e),
  ("-emoji".toList, Char.ofNat 0xfe0f)]

/-- The emoji of a name that may tell how it is shown. -/
def shownEmoji? (name : List Char) : Option (List Char) :=
  let variant := emojiVariants.find? fun (ending, _) => ending.isSuffixOf name
  match variant with
  | some (ending, sign) =>
    let emoji := Text.emoji? (Text.lowerList (name.take (name.length - ending.length)))
    emoji.map (· ++ [sign])
  | none => Text.emoji? (Text.lowerList name)

/-- Replace the names of emoji, which stand between colons. -/
def replaceEmoji : Nat → List Char → List Char
  | 0, s => s
  | _, [] => []
  | fuel + 1, c :: rest =>
    if c ≠ ':' then c :: replaceEmoji fuel rest
    else
      let name := rest.takeWhile fun d => d ≠ ':' && !Text.isBlank d
      match rest.drop name.length with
      | ':' :: after =>
        (shownEmoji? name).getD (':' :: name ++ [':']) ++ replaceEmoji fuel after
      | _ => c :: replaceEmoji fuel rest

/-- Characters that would move the cursor are not shown. -/
def isShown (c : Char) : Bool := !([7, 8, 11, 12, 13].contains c.toNat)

/-- A plain piece as it is shown. -/
def shownPiece (piece : List Char) : List Char :=
  let text := unescapeBrackets piece
  (replaceEmoji text.length text).filter isShown

/-! ## Styles that begin and end -/

/-- What comes in parentheses after the name of an action: nothing else can be followed. -/
def isAction (parameters : List Char) : Bool :=
  let action := Text.trimBlanks parameters
  let name := action.takeWhile fun c => c.isAlphanum || c = '_' || c = '.'
  (action.drop name.length).isEmpty || action.drop name.length = ['(', ')']

/-- May a style end? One that stands for an action must name it. -/
def canEnd (tag : Tag) : Bool :=
  tag.name.head? ≠ some '@' || isAction (tag.parameters.getD [])

/-- The open tags after one more, the latest first; nothing if there is none for it to end. -/
def applyTag? (opened : List Tag) (tag : Tag) : Option (List Tag) :=
  let normalForm (name : List Char) := (Style.normalForm (String.ofList name)).toList
  match tag.name with
  | '/' :: ended =>
    let name := Text.trimBlanks ended
    let found := if name.isEmpty then opened.head? else opened.find? fun o => o.name = normalForm name
    match found with
    | some begun => if canEnd begun then some (opened.erase begun) else none
    | none => none
  | name => some ({ tag with name := normalForm name } :: opened)

def showPieces? (opened : List Tag) : List Piece → Option (List Char)
  | [] => some []
  | .plain text :: rest => (showPieces? opened rest).map (shownPiece text ++ ·)
  | .tag tag :: rest => do showPieces? (← applyTag? opened tag) rest

/-! ## Shown texts -/

/-- How far a tab leads: to the next multiple of this. -/
def tabWidth : Nat := 8

/-- A text with spaces for its tabs; `column` cells are before it on its line. -/
def expandTabs (column : Nat) : List Char → List Char
  | [] => []
  | '\n' :: rest => '\n' :: expandTabs 0 rest
  | '\t' :: rest =>
    let width := tabWidth - column % tabWidth
    List.replicate width ' ' ++ expandTabs (column + width) rest
  | c :: rest => c :: expandTabs (column + Text.cellWidth c) rest

/-- A text as it is shown without styles. -/
def plainText? (text : String) : Option String :=
  (showPieces? [] (pieces text.toList)).map fun shown => String.ofList (expandTabs 0 shown)

end Bindery.CommandLine
