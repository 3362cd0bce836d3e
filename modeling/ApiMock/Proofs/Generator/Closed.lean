import ApiMock.Mock.Source
import ApiMock.Proofs.Json.Brackets
import ApiMock.Proofs.Sample.Component
/-!
# Expressions close what they open

Texts of a document reach the mock module as literals, as property names and as numbers. Wherever
they stand in an expression, and however deeply, the expression leaves no string and no bracket open
and has no control character. So a function that returns an expression ends at the brace of its own
body. Names of registry components stand in expressions as they are, and are left out here.
-/
namespace ApiMock

/-- A bound is plain, an infinite one too. -/
theorem isPlain_of_mem_boundText {bound : Binary64} {c : Char}
    (listed : c ∈ (boundText bound).toList) : IsPlain c := by
  unfold boundText at listed
  split at listed
  · exact NumberLayout.isPlain_of_mem_write listed
  · exact (forall_mem_of_all (by decide) : ∀ c ∈ "undefined".toList, IsPlain c) c listed

/-- The bounds of an integer stand between braces of their own. -/
theorem passes_rangeText (minimum maximum : Option Binary64) :
    Passes [] (rangeText minimum maximum) [] := by
  have bound : ∀ opened bound, Passes opened (boundText bound) opened := fun opened _ =>
    (Passes.plain fun _ => isPlain_of_mem_boundText).within opened
  have closing : Passes [.curly] " \x7d" [] := by decide
  cases minimum with
  | none =>
    cases maximum with
    | none => exact ⟨rfl, nofun⟩
    | some high =>
      have opening : Passes [] "\x7b max: " [.curly] := by decide
      exact (opening.append (bound _ high)).append closing
  | some low =>
    have opening : Passes [] "\x7b min: " [.curly] := by decide
    cases maximum with
    | none => exact (opening.append (bound _ low)).append closing
    | some high =>
      have next : Passes [.curly] ", max: " [.curly] := by decide
      exact (((opening.append (bound _ low)).append next).append (bound _ high)).append closing

/-- The call for a kind of string closes its brackets. -/
theorem passes_call (kind : StringKind) : Passes [] kind.call [] := by cases kind <;> decide

/-- The greatest length of an array is a number or a name. -/
theorem LengthBound.isPlain_of_mem_text {length : LengthBound} {c : Char}
    (listed : c ∈ length.text.toList) : IsPlain c := by
  cases length with
  | declared length => exact isPlain_of_mem_repr listed
  | configured length =>
    exact (forall_mem_of_all (by decide) : ∀ c ∈ arrayLengthName.toList, IsPlain c) c listed

namespace Generator

/-- The expressions of a list of generators, one by one. -/
theorem expressions_eq_map (generators : List Generator) :
    expressions generators = generators.map expression := by
  induction generators with
  | nil => rfl
  | cons generator rest ih => rw [expressions, ih, List.map_cons]

/-- The members of an object expression, one by one. -/
theorem propertyExpressions_eq_map (properties : List (String × Generator)) :
    propertyExpressions properties =
      properties.map fun property => Json.quote property.1 ++ ": " ++ expression property.2 := by
  induction properties with
  | nil => rfl
  | cons property rest ih => rw [propertyExpressions, ih, List.map_cons]

/-- The expression of a generator without references is code that leaves no bracket open. -/
theorem passes_expression {generator : Generator} (inline : generator.Inline) :
    Passes [] generator.expression [] := by
  have comma : ∀ opened, Passes opened ", " opened := fun opened =>
    (by decide : Passes [] ", " []).within opened
  have natural : ∀ opened n, Passes opened (Nat.repr n) opened := fun opened _ =>
    (Passes.plain fun _ => isPlain_of_mem_repr).within opened
  have call : Passes [.round] ")" [] := by decide
  induction inline with
  | null => exact .plain (forall_mem_of_all (by decide))
  | literal value => exact Json.passes_write value
  | @oneOf alternatives each ih =>
    have opening : Passes [] "faker.helpers.arrayElement([" [.square, .round] := by decide
    have closing : Passes [.square, .round] "])" [] := by decide
    simp only [expression.eq_def (.oneOf _), expressions_eq_map]
    refine (opening.append (.intercalate (comma _) fun text listed => ?_)).append closing
    obtain ⟨generator, member, rfl⟩ := List.mem_map.mp listed
    exact (ih generator member).within _
  | enum values =>
    have opening : Passes [] "faker.helpers.arrayElement(" [.round] := by decide
    rw [expression.eq_def]
    exact (opening.append ((Json.passes_write (.arr values)).within _)).append call
  | text kind =>
    rw [expression.eq_def]
    exact passes_call kind
  | integer minimum maximum =>
    have opening : Passes [] "faker.number.int(" [.round] := by decide
    rw [expression.eq_def]
    exact (opening.append ((passes_rangeText minimum maximum).within _)).append call
  | boolean => decide
  | @record values inner ih =>
    have opening : Passes []
        "Object.fromEntries(faker.helpers.uniqueArray(() => faker.lorem.word(), "
        [.round, .round] := by decide
    have pairing : Passes [.round, .round] ").map(key => [key, " [.square, .round, .round] := by
      decide
    have closing : Passes [.square, .round, .round] "]))" [] := by decide
    rw [expression.eq_def]
    exact (((opening.append (natural _ recordSize)).append pairing).append (ih.within _)).append
      closing
  | @object properties each ih =>
    simp only [expression.eq_def (.object _), propertyExpressions_eq_map]
    split
    · decide
    · have opening : Passes [] "\x7b " [.curly] := by decide
      have closing : Passes [.curly] " \x7d" [] := by decide
      have colon : Passes [] ": " [] := by decide
      refine (opening.append (.intercalate (comma _) fun text listed => ?_)).append closing
      obtain ⟨property, member, rfl⟩ := List.mem_map.mp listed
      exact (((Json.passes_quote property.1).append colon).append (ih property member)).within _
  | @array minimum maximum items inner ih =>
    have opening : Passes [] "[...new Array(faker.number.int(\x7b min: "
        [.curly, .round, .round, .square] := by decide
    have next : Passes [.curly, .round, .round, .square] ", max: "
        [.curly, .round, .round, .square] := by decide
    have greatest : ∀ opened, Passes opened maximum.text opened := fun opened =>
      (Passes.plain fun _ => LengthBound.isPlain_of_mem_text).within opened
    have mapping : Passes [.curly, .round, .round, .square] " \x7d)).keys()].map(_ => ("
        [.round, .round] := by decide
    have closing : Passes [.round, .round] "))" [] := by decide
    rw [expression.eq_def]
    exact (((((opening.append (natural _ minimum)).append next).append (greatest _)).append
      mapping).append (ih.within _)).append closing

end Generator

/-- The block of a function that returns an expression. -/
def returnBlock (expression : String) : String :=
  "\x7b" ++ (" return " ++ expression ++ " ") ++ "\x7d"

/-- A function that makes up a body consists of its name and the block that returns the body. -/
theorem Accessor.source_eq (accessor : Accessor) :
    accessor.source =
      "export function " ++ accessor.name ++ "() " ++ returnBlock accessor.body.expression ++
        ";\n" := by
  unfold Accessor.source
  generalize accessor.body.expression = body
  apply String.toList_inj.mp
  simp [returnBlock, String.toList_append]

/-- The expression of a generator without references leaves no string and no bracket open, closes
every bracket by one of its kind in nesting order, and has no control character. A function that
returns it ends at the brace of its own body, whatever its name is and whatever follows in the
module. -/
theorem Generator.expression_closed {generator : Generator} (inline : generator.Inline) :
    Scan.run {} generator.expression.toList = some {} ∧
      (∀ c ∈ generator.expression.toList, 0x20 ≤ c.toNat) ∧
      ∀ name, (Accessor.mk name generator).source =
          "export function " ++ name ++ "() " ++ returnBlock generator.expression ++ ";\n" ∧
        ∀ rest, afterBlock (returnBlock generator.expression ++ rest) = some rest := by
  have passes : Passes [] generator.expression [] := passes_expression inline
  have returning : Passes [] " return " [] := by decide
  have blank : Passes [] " " [] := by decide
  have block : Passes [] (" return " ++ generator.expression ++ " ") [] :=
    (returning.append passes).append blank
  exact ⟨passes.reads, passes.visible, fun name => ⟨Accessor.source_eq _, block.afterBlock⟩⟩

/-- Records in an array under a name that could end the string, the object and the function, with a
literal that opens brackets and an infinite bound. -/
def hostileBody : Generator :=
  .object [("\"]) \x7d\n\\", .array 1 (.configured 20) (.record (.oneOf [
    .literal (.obj [("([", .str "\\\"")]), .integer (some ⟨0x7FF0000000000000⟩) none])))]

/-- Names and literals that look like code do not end the function that returns them. -/
theorem expression_closed_hostileBody :
    hostileBody.Inline ∧ Scan.run {} hostileBody.expression.toList = some {} ∧
      afterBlock (returnBlock hostileBody.expression ++ ";\n") = some ";\n" := by
  have inline : hostileBody.Inline := by
    refine .object (List.forall_mem_singleton.mpr (.array _ _ (.record (.oneOf ?_))))
    exact List.forall_mem_cons.mpr ⟨.literal _, List.forall_mem_singleton.mpr (.integer _ _)⟩
  obtain ⟨closed, -, function⟩ := Generator.expression_closed inline
  exact ⟨inline, closed, (function "getPets200Response").2 ";\n"⟩

end ApiMock
