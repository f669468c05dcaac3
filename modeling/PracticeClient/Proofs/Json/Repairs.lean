import PracticeClient.Proofs.Json.Soundness

namespace PracticeClient.Json

open Grammar

/-- Where the next character stands: outside of strings, in a string, or behind a backslash in a
string. -/
inductive Place where
  | outside
  | inside
  | escaped
  deriving DecidableEq

def Place.after : Place → Char → Place
  | .outside, c => if c = '"' then .inside else .outside
  | .inside, c => if c = '"' then .outside else if c = '\\' then .escaped else .inside
  | .escaped, _ => .inside

/-- Whether U+FFFD stands in strings only, if a text begins at a place. -/
def Enclosed : Place → List Char → Prop
  | _, [] => True
  | place, c :: rest => (c = '\uFFFD' → place = .inside) ∧ Enclosed (place.after c) rest

structure Passes (start : Place) (text : List Char) (stop : Place) : Prop where
  arrives : text.foldl Place.after start = stop
  enclosed : Enclosed start text

namespace Passes

variable {start between stop : Place} {c : Char} {text rest content : List Char}

theorem nil : Passes start [] start := ⟨rfl, trivial⟩

theorem cons (mark : c = '\uFFFD' → start = .inside) (more : Passes (start.after c) rest stop) :
    Passes start (c :: rest) stop :=
  ⟨more.arrives, mark, more.enclosed⟩

theorem append (first : Passes start text between) (more : Passes between rest stop) :
    Passes start (text ++ rest) stop := by
  induction text generalizing start with
  | nil =>
    cases first.arrives
    exact more
  | cons c text ih => exact .cons first.enclosed.1 (ih ⟨first.arrives, first.enclosed.2⟩)

theorem outside (quote : c ≠ '"') (mark : c ≠ '\uFFFD') (more : Passes .outside rest stop) :
    Passes .outside (c :: rest) stop := by
  refine .cons (fun here => absurd here mark) ?_
  rwa [Place.after, if_neg quote]

theorem inside (quote : c ≠ '"') (backslash : c ≠ '\\') (more : Passes .inside rest stop) :
    Passes .inside (c :: rest) stop := by
  refine .cons (fun _ => rfl) ?_
  rwa [Place.after, if_neg quote, if_neg backslash]

theorem escape (mark : c ≠ '\uFFFD') (more : Passes .inside rest stop) :
    Passes .inside ('\\' :: c :: rest) stop :=
  .cons (fun _ => rfl) (.cons (fun here => absurd here mark) more)

theorem of_forall (plain : ∀ c ∈ text, c ≠ '"' ∧ c ≠ '\uFFFD') : Passes .outside text .outside := by
  induction text with
  | nil => exact .nil
  | cons c rest ih =>
    obtain ⟨quote, mark⟩ := plain c List.mem_cons_self
    exact .outside quote mark (ih fun c member => plain c (List.mem_cons_of_mem _ member))

theorem blank {gap : List Char} (blank : Blank gap) : Passes .outside gap .outside := by
  refine of_forall fun c member => ?_
  have gap := blank c member
  constructor <;>
  · rintro rfl
    cases gap

theorem digits (all : AreDigits text) : Passes .outside text .outside := by
  refine of_forall fun c member => ?_
  have digit := all c member
  constructor <;>
  · rintro rfl
    exact absurd digit (by decide)

theorem power (power : IsPower text) : Passes .outside text .outside := by
  cases power with
  | none => exact .nil
  | @power letter sign digits known signed filled all =>
    have sign : Passes .outside sign .outside := by
      cases signed with
      | none => exact .nil
      | plus => exact .outside (by decide) (by decide) .nil
      | minus => exact .outside (by decide) (by decide) .nil
    rcases known with rfl | rfl <;>
    · exact .outside (by decide) (by decide) (sign.append (.digits all))

theorem unsigned (unsigned : IsUnsigned text) : Passes .outside text .outside := by
  cases unsigned with
  | parts first second third =>
    refine .append (.digits (isDigit_of_isWhole first).2) (.append ?_ (.power third))
    cases second with
    | none => exact .nil
    | point filled all => exact .outside (by decide) (by decide) (.digits all)

theorem numeral (numeral : IsNumeral text) : Passes .outside text .outside := by
  cases numeral with
  | positive unsigned => exact .unsigned unsigned
  | negative unsigned => exact .outside (by decide) (by decide) (.unsigned unsigned)

theorem hex {c : Char} {value : Nat} (digit : Text.hexValue? c = some value)
    (more : Passes .inside rest stop) : Passes .inside (c :: rest) stop := by
  refine .inside ?_ ?_ more <;>
  · rintro rfl
    cases digit

theorem quoted (quoted : IsQuoted content) : Passes .inside content .inside := by
  induction quoted with
  | nil => exact .nil
  | plain quote backslash printable more ih => exact .inside quote backslash ih
  | escape known more ih =>
    refine .escape ?_ ih
    rintro rfl
    cases known
  | unit digits more ih =>
    unfold hexUnit? at digits
    split at digits
    · next first second third fourth =>
      exact .escape (by decide) (.hex first (.hex second (.hex third (.hex fourth ih))))
    · cases digits

theorem string (quoted : IsQuoted content) (more : Passes .outside rest stop) :
    Passes .outside ('"' :: (content ++ '"' :: rest)) stop :=
  .cons nofun (.append (.quoted quoted) (.cons nofun more))

end Passes

theorem passes_of_derives {symbol : Symbol} {text : List Char} (derives : Derives symbol text) :
    Passes .outside text .outside := by
  induction derives with
  | null | true | false => exact .of_forall (by simp)
  | number numeral => exact .numeral numeral
  | string quoted => exact .string quoted .nil
  | array items ih | object members ih =>
    exact .outside (by decide) (by decide) (ih.append (.outside (by decide) (by decide) .nil))
  | item blank real blank' ih => exact .append (.blank blank) (ih.append (.blank blank'))
  | noItems blank | noMembers blank => exact .blank blank
  | lastItem item ih | lastMember member ih => exact ih
  | moreItems item more ih ihMore | moreMembers member more ih ihMore =>
    exact ih.append (.outside (by decide) (by decide) ihMore)
  | member blank quoted blank' item ih =>
    exact .append (.blank blank) (.string quoted
      (.append (.blank blank') (.outside (by decide) (by decide) ih)))

theorem passes_of_isText {text : List Char} (is : IsText text) : Passes .outside text .outside := by
  cases is with
  | value blank derives blank' =>
    exact .append (.blank blank) (.append (passes_of_derives derives) (.blank blank'))

/-! ## Bytes -/

def Place.behind (found : List (Option Char)) : Place :=
  (found.map fun scalar => scalar.getD '\uFFFD').foldl Place.after .outside

theorem Enclosed.inside_of_append {start : Place} {text rest : List Char}
    (enclosed : Enclosed start (text ++ '\uFFFD' :: rest)) :
    text.foldl Place.after start = .inside := by
  induction text generalizing start with
  | nil => exact enclosed.1 rfl
  | cons c text ih => exact ih enclosed.2

theorem inside_of_parse {bytes : Bytes} {value : Value}
    (parsed : parse (Text.decodeLossy bytes) = .ok value) {before after : List (Option Char)}
    (ill : Text.scalars none bytes = before ++ none :: after) : Place.behind before = .inside := by
  have enclosed := (passes_of_isText (isText_of_parse parsed)).enclosed
  rw [Text.decodeLossy, String.toList_ofList, ill, List.map_append] at enclosed
  exact enclosed.inside_of_append

end PracticeClient.Json
