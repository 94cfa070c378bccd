import TextTemplate.Program
import TextTemplate.Text.Quoted

/-!
# Program listings

A listing has one line per step; the blocks of a step stand between it and an `end`, two blanks
further in. A block without steps for the case that a condition fails is left out.
-/

namespace TextTemplate

/-- How a listing writes the beginning of an expression. -/
def Base.listing : Base → String
  | binding slot => "$" ++ toString slot
  | helper name => "helper:" ++ name
  | context key => "ctx." ++ key

/-- How a listing writes an expression. A question mark stands for one that may be absent. -/
def Expr.listing (e : Expr) : String :=
  e.base.listing ++ String.join (e.tail.map ("." ++ ·)) ++
    String.join (e.pipes.map (" |> " ++ ·)) ++
    (match e.guard with
      | .required => ""
      | .optional => " ?")

/-- How a listing writes the name of an included template. -/
def IncludeName.listing : IncludeName → String
  | fixed name => Quoted.encode name
  | computed value => "(" ++ value.listing ++ ")"

/-- How a listing writes parameters. -/
def paramsListing (params : List (String × Expr)) : String :=
  let written := params.map fun (key, value) => key ++ "=" ++ value.listing
  if written = [] then "" else " with " ++ ", ".intercalate written

/-- A line at a depth of nesting. -/
def listingLine (depth : Nat) (s : String) : String :=
  String.ofList (List.replicate (2 * depth) ' ') ++ s ++ "\n"

mutual

/-- The lines of a step. -/
def Op.listing (depth : Nat) : Op → String
  | .text s => listingLine depth ("text " ++ Quoted.encode s)
  | .emit value escape =>
    listingLine depth ("emit " ++ (if escape then "escape " else "raw ") ++ value.listing)
  | .branch condition body otherwise =>
    listingLine depth ("if " ++ condition.listing) ++ Op.listings (depth + 1) body ++
      (if otherwise.isEmpty then ""
        else listingLine depth "else" ++ Op.listings (depth + 1) otherwise) ++
      listingLine depth "end"
  | .loop items index body =>
    listingLine depth
        ("each " ++ items.listing ++ " as " ++ (if index then "item, index" else "item")) ++
      Op.listings (depth + 1) body ++ listingLine depth "end"
  | .inclusion name params =>
    listingLine depth ("include " ++ name.listing ++ paramsListing params)

/-- The lines of steps. -/
def Op.listings (depth : Nat) : List Op → String
  | [] => ""
  | op :: rest => Op.listing depth op ++ Op.listings depth rest

end

/-- The listing of a program. -/
def Program.listing (p : Program) : String := Op.listings 0 p.ops

end TextTemplate
