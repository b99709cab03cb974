import Stepwise.Handler.Input

/-!
# Fresh ids

A handler that answers a fresh id in one of four forms.
-/

namespace Stepwise.FreshId

set_option autoImplicit false

def moduleId : String := "StdLib:UuidGenerator"

def formatted? (form id : String) : Option String :=
  match form with
  | "hyphenated" => some id
  | "simple" => some (String.ofList (id.toList.filter (· ≠ '-')))
  | "urn" => some ("urn:uuid:" ++ id)
  | "braced" => some ("\x7b" ++ id ++ "\x7d")
  | _ => none

def run (id : String) (input : Dict Json) : Except StepError Json :=
  let form := input.textOr "format" "hyphenated"
  match formatted? form id with
  | some text => .ok (.object [("uuid", .str text), ("version", .ofNat 4), ("format", .str form)])
  | none => .error (.permanent ("Unsupported UUID format: " ++ form)
      (some (.object [("supportedFormats",
        .arr [.str "hyphenated", .str "simple", .str "urn", .str "braced"])])))

end Stepwise.FreshId
