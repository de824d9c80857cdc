import TaskEngine.Text.Split

/-!
# Clone addresses

The token of a repository is spliced into its clone address as the user in front of the host, and
an address is shown with everything that stands in front of its host hidden.
-/

namespace TaskEngine.CloneUrl

/-- The mark between the scheme of an address and the rest. -/
def schemeMark : String := "://"

/-- The address with a token as its user; an empty token changes nothing. Only the first scheme
mark is touched. -/
def withToken (url : String) (token : Option String) : String :=
  match token with
  | none => url
  | some token =>
    if token.isEmpty then url
    else Text.replaceFirst schemeMark (schemeMark ++ token ++ ":@") url

/-- What is shown in place of the user part. -/
def hiddenUser : String := "[REDACTED]@"

/-- The address as it may be shown. The user part ends at the last at-sign before the path. -/
def redacted (url : String) : String :=
  match Text.splitOnce? schemeMark url with
  | none => url
  | some (scheme, rest) =>
    let authority := rest.toList.takeWhile (· ≠ '/')
    if '@' ∈ authority then
      let host := Text.afterLast '@' authority
      scheme ++ schemeMark ++ hiddenUser ++
        String.ofList (host ++ rest.toList.drop authority.length)
    else url

end TaskEngine.CloneUrl
