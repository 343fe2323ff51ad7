/-
What JSON is.

The grammar of JSON values, over bytes and without a word on how they are read.  A value has
no white space around it; white space stands only between the tokens inside a container, and
`Listed` says where: around every entry, with a comma between two of them.  What a container
holds is then a list of tokens and the bytes that list them, for lists and objects alike.

The grammar says nothing about what strings and numbers mean, so that any four digits make an
escape and a number may have any size.
-/
import BlogGateway.Bytes

namespace BlogGateway.Json

open Ascii

/-- White space: any number of blanks, tabs and ends of lines. -/
def Blank (s : Bytes) : Prop := ∀ b ∈ s, b ∈ [0x20, 0x0A, 0x09, 0x0D]

instance : DecidablePred Blank := fun s =>
  List.decidableBAll (fun b => b ∈ [0x20, 0x0A, 0x09, 0x0D]) s

/-! ### Numbers -/

/-- One digit or more. -/
structure Digits (s : Bytes) : Prop where
  ne_nil : s ≠ []
  all : ∀ b ∈ s, isDigit b

/-- The digits before the point, of which the first is zero only when it stands alone. -/
inductive IsWhole : Bytes → Prop
  | zero : IsWhole [0x30]
  | positive {b : UInt8} {s : Bytes} (first : isDigit b) (ne_zero : b ≠ 0x30)
      (more : ∀ d ∈ s, isDigit d) : IsWhole (b :: s)

/-- A fraction, or nothing. -/
inductive IsFraction : Bytes → Prop
  | none : IsFraction []
  | some {s : Bytes} (digits : Digits s) : IsFraction (point :: s)

/-- An exponent, or nothing. -/
inductive IsExponent : Bytes → Prop
  | none : IsExponent []
  | some {mark : UInt8} {sign s : Bytes} (marked : mark ∈ [lowerE, upperE])
      (signed : sign ∈ [[], [plus], [minus]]) (digits : Digits s) :
      IsExponent (mark :: sign ++ s)

/-- A number. -/
inductive IsNumber : Bytes → Prop
  | mk {sign w f e : Bytes} (signed : sign ∈ [[], [minus]]) (whole : IsWhole w)
      (fraction : IsFraction f) (exponent : IsExponent e) : IsNumber (sign ++ w ++ f ++ e)

/-! ### Strings -/

/-- What stands between the quotes of a string. -/
inductive IsContent : Bytes → Prop
  | nil : IsContent []
  | plain {b : UInt8} {s : Bytes} (printable : 0x20 ≤ b) (ne_quote : b ≠ quote)
      (ne_backslash : b ≠ backslash) (rest : IsContent s) : IsContent (b :: s)
  | escape {letter : UInt8} {s : Bytes}
      (known : letter ∈ [quote, backslash, slash, lowerB, lowerF, lowerN, lowerR, lowerT])
      (rest : IsContent s) : IsContent (backslash :: letter :: s)
  | unit {a b c d : UInt8} {s : Bytes} (hex : ∀ digit ∈ [a, b, c, d], (hexValue? digit).isSome)
      (rest : IsContent s) : IsContent (backslash :: lowerU :: a :: b :: c :: d :: s)

/-- A string with the given content, in its quotes. -/
def quoted (content : Bytes) : Bytes := quote :: (content ++ [quote])

/-! ### Containers -/

/-- The bytes list the tokens: white space around each, and commas between them. -/
inductive Listed : List Bytes → Bytes → Prop
  | nil {s : Bytes} (blank : Blank s) : Listed [] s
  | one {before token after : Bytes} (blank : Blank before) (blank' : Blank after) :
      Listed [token] (before ++ token ++ after)
  | more {before token after next s : Bytes} {tokens : List Bytes} (blank : Blank before)
      (blank' : Blank after) (rest : Listed (next :: tokens) s) :
      Listed (token :: next :: tokens) (before ++ token ++ after ++ comma :: s)

/-- A list whose content is given. -/
def bracketed (s : Bytes) : Bytes := openBracket :: (s ++ [closeBracket])

/-- An object whose content is given. -/
def braced (s : Bytes) : Bytes := openBrace :: (s ++ [closeBrace])

/-- How a member of an object is spelled. -/
structure MemberText where
  /-- The content of the name. -/
  key : Bytes
  /-- The white space before the colon. -/
  before : Bytes
  /-- The white space behind the colon. -/
  after : Bytes
  value : Bytes

/-- The bytes of a member. -/
def MemberText.bytes (member : MemberText) : Bytes :=
  quoted member.key ++ member.before ++ colon :: member.after ++ member.value

/-- The parts of a member other than its value are as they should be. -/
structure MemberText.Named (member : MemberText) : Prop where
  key : IsContent member.key
  before : Blank member.before
  after : Blank member.after

/-! ### Values -/

/-- The bytes are a JSON value, with no white space around it. -/
inductive IsValue : Bytes → Prop
  | null : IsValue [0x6E, 0x75, 0x6C, 0x6C]
  | true : IsValue [0x74, 0x72, 0x75, 0x65]
  | false : IsValue [0x66, 0x61, 0x6C, 0x73, 0x65]
  | number {s : Bytes} (number : IsNumber s) : IsValue s
  | string {s : Bytes} (content : IsContent s) : IsValue (quoted s)
  | list {tokens : List Bytes} {s : Bytes} (listed : Listed tokens s)
      (values : ∀ token ∈ tokens, IsValue token) : IsValue (bracketed s)
  | object {members : List MemberText} {s : Bytes}
      (listed : Listed (members.map MemberText.bytes) s)
      (named : ∀ member ∈ members, member.Named)
      (values : ∀ member ∈ members, IsValue member.value) : IsValue (braced s)

/-- No value goes on here: the text ends, or white space, a comma or the end of a container
follows. -/
def Stops (s : Bytes) : Prop :=
  ∀ b ∈ s.head?, b ∈ [0x20, 0x0A, 0x09, 0x0D, comma, closeBracket, closeBrace]

/-! ### White space and what stops a value -/

theorem blank_nil : Blank [] := fun _ h => nomatch h

theorem stops_nil : Stops [] := fun _ h => nomatch h

theorem stops_cons {b : UInt8} {s : Bytes}
    (h : b ∈ [0x20, 0x0A, 0x09, 0x0D, comma, closeBracket, closeBrace]) : Stops (b :: s) := by
  intro b' hb
  obtain rfl := Option.some.inj hb
  exact h

theorem stops_append {blank s : Bytes} (hblank : Blank blank) (hs : Stops s) :
    Stops (blank ++ s) := by
  cases blank with
  | nil => exact hs
  | cons b blank =>
      exact stops_cons (List.mem_append_left [comma, closeBracket, closeBrace]
        (hblank b (List.mem_cons_self ..)))

/-! ### The first byte of a value -/

/-- A byte that can begin a value. -/
def Begins (b : UInt8) : Prop :=
  b ∈ [quote, minus, openBracket, openBrace, lowerN, lowerT, lowerF] ∨ isDigit b

instance : DecidablePred Begins := fun b =>
  inferInstanceAs (Decidable (b ∈ [quote, minus, openBracket, openBrace, lowerN, lowerT, lowerF] ∨
    isDigit b))

theorem Begins.ne {b other : UInt8} (h : Begins b) (not : ¬ Begins other) : b ≠ other := by
  intro same
  exact not (same ▸ h)

theorem IsNumber.begins {s : Bytes} (h : IsNumber s) : ∃ b t, s = b :: t ∧ Begins b := by
  cases h with
  | mk signed whole fraction exponent =>
      simp only [List.mem_cons, List.not_mem_nil, or_false] at signed
      rcases signed with rfl | rfl
      · cases whole with
        | zero => exact ⟨_, _, rfl, .inr rfl⟩
        | positive first => exact ⟨_, _, rfl, .inr first⟩
      · exact ⟨_, _, rfl, .inl (by decide)⟩

/-- Every value has a first byte, which is one that can begin a value. -/
theorem IsValue.begins {s : Bytes} (h : IsValue s) : ∃ b t, s = b :: t ∧ Begins b := by
  cases h with
  | number h => exact h.begins
  | null | true | false | string | list | object => exact ⟨_, _, rfl, .inl (by decide)⟩

theorem IsValue.ne_nil {s : Bytes} (h : IsValue s) : s ≠ [] := by
  obtain ⟨b, t, rfl, -⟩ := h.begins
  exact List.cons_ne_nil b t

end BlogGateway.Json
