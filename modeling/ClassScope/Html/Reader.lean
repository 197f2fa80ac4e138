import ClassScope.Html.Tag
import ClassScope.Text.Quoted

/-!
# Reading markup

The tags of a document in order. Comments, declarations and instructions hold no tags, and neither
does the content of scripts and style sheets. What looks like a tag or a reference and has no end is
text. A document is rejected for a marked section without a keyword that has a meaning, and for a
reference with too long a number.

A document is read in two passes. The first one stops at the first thing without an end; the second
one goes on from there, takes what has no end for text, and gives the document up at a numeric
reference that cannot be read.
-/

namespace ClassScope.Html

/-- A tag of a document. -/
inductive Tag where
  /-- An opening tag. -/
  | opening (tag : OpeningTag)
  /-- A closing tag, given by its name. -/
  | closing (name : Text)
  deriving DecidableEq, Repr

/-- The text after the first place where `close?` reads something. -/
def afterFirst? (close? : Text → Option Text) : Text → Option Text
  | [] => none
  | c :: s => (close? (c :: s)).or (afterFirst? close? s)

/-- The end of a comment: two hyphens and a `>`, with blanks between perhaps. -/
def commentEnd? (s : Text) : Option Text :=
  match Text.after? ['-', '-'] s with
  | none => none
  | some s => Text.after? ['>'] (Text.stripLeft s)

/-- The end of a marked section: a bracket and a `>`, with blanks between perhaps. -/
def sectionEnd? (s : Text) : Option Text :=
  match Text.after? [']'] s with
  | none => none
  | some s => Text.after? ['>'] (Text.stripLeft s)

/-- The end of a section of characters: two brackets and a `>`, with blanks between perhaps. -/
def characterSectionEnd? (s : Text) : Option Text :=
  match Text.after? [']'] s with
  | none => none
  | some s => sectionEnd? (Text.stripLeft s)

/-- The closing tag of a raw element with a name. -/
def rawEnd? (name s : Text) : Option Text :=
  match Text.after? ['<', '/'] s with
  | none => none
  | some s =>
    let s := Text.stripLeft s
    if (s.take name.length).map Char.toLower = name then
      Text.after? ['>'] (Text.stripLeft (s.drop name.length))
    else none

/-- The elements whose content is not markup. -/
def rawNames : List Text := [Text.of "script", Text.of "style"]

/-! ## Declarations -/

/-- Why a document is rejected. -/
inductive Rejection where
  /-- The keyword of a marked section has no meaning; it is given with the blanks behind it. -/
  | unknownKeyword (keyword : Text)
  /-- A marked section starts with no keyword; the text is given from its start on. -/
  | noKeyword (start : Text)
  /-- A reference has too long a number. -/
  | longNumber (e : TooManyDigits)
  deriving DecidableEq, Repr

/-- The wording of a rejection of the whole document. -/
def rejected (reason : String) : String :=
  "The markup you provided was rejected by the parser. Trying a different parser or a different " ++
    "encoding may help.\n\nOriginal exception(s) from parser:\n AssertionError: " ++ reason

/-- The wording of a rejection. -/
def Rejection.message : Rejection → String
  | .unknownKeyword keyword =>
    rejected ("unknown status keyword " ++ String.ofList (Text.quoted keyword) ++
      " in marked section")
  | .noKeyword start => rejected ("expected name token at " ++ String.ofList (Text.quoted start))
  | .longNumber e => e.message

/-- A character of the keyword of a marked section. -/
def isKeywordChar (c : Char) : Bool := Text.isAsciiWord c || c == '-' || c == '.'

/-- The keywords of sections that end with one bracket. -/
def shortSections : List Text := ["if", "else", "endif"].map String.toList

/-- The keywords of sections that end with two brackets. -/
def longSections : List Text :=
  ["temp", "cdata", "ignore", "include", "rcdata"].map String.toList

/-- The text after a marked section whose `<![` stands in front, if the section has an end. -/
def afterSection? (s : Text) : Except Rejection (Option Text) :=
  if s = [] then .ok none
  else if s.head?.any Text.isAsciiLetter then
    let keyword := s.takeWhile isKeywordChar
    let behind := s.dropWhile isKeywordChar
    let word := keyword.map Char.toLower
    if Text.stripLeft behind = [] then .ok none
    else if longSections.contains word then .ok (afterFirst? characterSectionEnd? s)
    else if shortSections.contains word then .ok (afterFirst? sectionEnd? s)
    else .error (.unknownKeyword (keyword ++ behind.takeWhile Text.isBlank))
  else .error (.noKeyword ((Text.of "<![" ++ s).take 20))

/-- The text after a declaration whose `<!` stands in front, if the declaration has an end. -/
def afterDeclaration? (s : Text) : Except Rejection (Option Text) :=
  match s with
  | '-' :: '-' :: s => .ok (afterFirst? commentEnd? s)
  | '[' :: s => afterSection? s
  | s =>
    if (s.take 7).map Char.toLower = Text.of "doctype" then .ok (afterEnd? (s.drop 7))
    else .ok (afterEnd? s)

/-! ## Documents -/

/-- A numeric reference whose `&#` stands in front can be read: it has digits, and after them comes
a character that is none. -/
def isNumericReference (s : Text) : Bool :=
  let closed (digits rest : Text) : Bool := !digits.isEmpty && rest.head?.any (!isHexDigit ·)
  match s with
  | 'x' :: s | 'X' :: s => closed (s.takeWhile isHexDigit) (s.dropWhile isHexDigit)
  | s => closed (s.takeWhile Text.isAsciiDigit) (s.dropWhile Text.isAsciiDigit)

/-- Where reading goes on after something without an end that starts with a `<`: after the next `>`,
else at the next `<`, else after one character. -/
def afterIncomplete (s : Text) : Text :=
  match afterEnd? s with
  | some r => r
  | none =>
    match s.dropWhile (· ≠ '<') with
    | [] => s
    | r => r

/-- What stands at a `<`. -/
inductive Construct where
  /-- A tag, with the text after it. -/
  | tag (tag : Tag) (rest : Text)
  /-- Something that holds no tag, with the text after it. -/
  | other (rest : Text)
  /-- Something that has no end. -/
  | incomplete
  deriving DecidableEq, Repr

/-- What a `<` with the text behind it is. -/
def readConstruct (s : Text) : Except Rejection Construct :=
  let skip : Option Text → Construct
    | some r => .other r
    | none => .incomplete
  match s with
  | [] => .ok .incomplete
  | c :: t =>
    if Text.isAsciiLetter c then
      match readOpening s with
      | .error e => .error (.longNumber e)
      | .ok (.tag tag r) => .ok (.tag (.opening tag) r)
      | .ok .incomplete => .ok .incomplete
      | .ok (.text r) => .ok (.other r)
    else if c = '/' then
      match readClosing t with
      | .tag name r => .ok (.tag (.closing name) r)
      | .skipped r => .ok (.other r)
      | .incomplete => .ok .incomplete
    else if c = '!' then skip <$> afterDeclaration? t
    else if c = '?' then .ok (skip (afterEnd? t))
    else .ok (.other s)

/-- The digits of a numeric reference whose `&#` stands in front make a number, if it is decimal and
not too long. -/
def checkReference (s : Text) : Except Rejection Unit :=
  match readWholeNumber (s.takeWhile Text.isAsciiDigit) with
  | .error e => .error (.longNumber e)
  | .ok _ => .ok ()

/-- The tags of a text, in at most `fuel` steps; `last` says that this is the second pass. -/
def readTags : (fuel : Nat) → (last : Bool) → Text → Except Rejection (List Tag)
  | 0, _, _ => .ok []
  | _, _, [] => .ok []
  | fuel + 1, last, '<' :: s =>
    match readConstruct s with
    | .error e => .error e
    | .ok (.tag (.opening tag) r) =>
      (.opening tag :: ·) <$>
        if rawNames.contains tag.name && !tag.closed then
          match afterFirst? (rawEnd? tag.name) r with
          | some r => (.closing tag.name :: ·) <$> readTags fuel last r
          | none => .ok []
        else readTags fuel last r
    | .ok (.tag (.closing name) r) => (.closing name :: ·) <$> readTags fuel last r
    | .ok (.other r) => readTags fuel last r
    | .ok .incomplete =>
      if last then readTags fuel true (afterIncomplete s) else readTags fuel true ('<' :: s)
  | fuel + 1, last, '&' :: '#' :: s =>
    if isNumericReference s then
      match checkReference s with
      | .error e => .error e
      | .ok () => readTags fuel last s
    else if last then .ok []
    else readTags fuel true (if ';' ∈ s then s else '&' :: '#' :: s)
  | fuel + 1, last, _ :: s => readTags fuel last s

/-- The tags of a document. Every step reads a character, or is the one into the second pass. -/
def tags (s : Text) : Except Rejection (List Tag) := readTags (s.length + 1) false s

end ClassScope.Html
