import Paydesk.Text.Split

/-!
# Media types

Whether a content type announces a JSON document: `application/json` or any `application/…+json`, in
any case and with any well-formed parameters.
-/

namespace Paydesk.Web

/-- A character that the text of a header may hold. -/
def isHeaderChar (c : Char) : Bool :=
  c = '\t' || (32 ≤ c.toNat && c.toNat < 127)

/-- A character of a name in a media type. -/
def isTokenChar (c : Char) : Bool :=
  c.isAlphanum || "!#$%&'*+-.^_\x60|~".toList.contains c

/-- A character inside a quoted value of a parameter. -/
def isQuotedChar (c : Char) : Bool :=
  32 ≤ c.toNat && c.toNat != 127

/-- What follows a quoted value after its first character; the closing quote is not the first. -/
def afterQuoted : List Char → Option (List Char)
  | [] => none
  | c :: rest =>
    if c = '\x22' then some rest
    else if isQuotedChar c then afterQuoted rest
    else none

/-- What follows the value of a parameter: nothing, or what stands after the semicolon. -/
def afterValue (cs : List Char) : Option (List Char) :=
  match cs with
  | '\x22' :: first :: rest =>
    if isQuotedChar first then
      (afterQuoted rest).bind fun more =>
        match more.dropWhile fun c => c = ' ' with
        | [] => some []
        | ';' :: next => some next
        | _ => none
    else none
  | cs =>
    let value := cs.takeWhile isTokenChar
    match cs.drop value.length with
    | [] => some []
    | ';' :: next => if value.isEmpty then none else some next
    | _ => none

/-- The parameters are well formed; `fuel` bounds their number. -/
def parametersOk : Nat → List Char → Bool
  | 0, _ => false
  | fuel + 1, cs =>
    match cs.dropWhile fun c => c = ' ' with
    | [] => true
    | cs =>
      let name := cs.takeWhile isTokenChar
      match cs.drop name.length with
      | '=' :: value =>
        if name.isEmpty then false
        else
          match afterValue value with
          | none => false
          | some rest => parametersOk fuel rest
      | _ => false

/-- Type, subtype and suffix of a media type, in lower case, and its parameters. The suffix follows
the last plus sign of the subtype, if that is not its first character. -/
def mediaParts? (cs : List Char) : Option (List Char × List Char × List Char × List Char) :=
  let type := cs.takeWhile isTokenChar
  match cs.drop type.length with
  | '/' :: rest =>
    let name := rest.takeWhile isTokenChar
    let after := rest.drop name.length
    if type.isEmpty then none
    else
      let suffix := (name.reverse.takeWhile fun c => c != '+').reverse
      let subtype :=
        if suffix.length + 1 < name.length then name.take (name.length - suffix.length - 1)
        else name
      let suffix := if suffix.length + 1 < name.length then suffix else []
      some (type.map Char.toLower, subtype.map Char.toLower, suffix.map Char.toLower, after)
  | _ => none

/-- The content type announces a JSON document. -/
def isJsonType (contentType : String) : Bool :=
  contentType.toList.all isHeaderChar && match mediaParts? contentType.toList with
  | none => false
  | some (type, subtype, suffix, after) =>
    type == "application".toList && (subtype == "json".toList || suffix == "json".toList) &&
      match after with
      | [] => true
      | ';' :: parameters => parametersOk (parameters.length + 1) parameters
      | _ => false

end Paydesk.Web
