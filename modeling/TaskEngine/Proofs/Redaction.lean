import TaskEngine.Proofs.CloneCommand

/-!
# Addresses as they are shown

A token is spliced into an address as its user, and what is shown of the address hides the user.
Both start from the first scheme mark, but the user is looked for in front of the path only. So all
tokens without a slash leave the same text to be shown, and a token with a slash always leaves
another one.
-/

namespace TaskEngine.CloneUrl

instance (url : String) : Decidable (HasScheme url) :=
  inferInstanceAs (Decidable (schemeMark.toList <:+: url.toList))

/-! ## The parts of an address -/

/-- An address with a scheme is divided at its first scheme mark. -/
theorem HasScheme.exists_parts {url : String} (h : HasScheme url) :
    ∃ front back, ¬ schemeMark.toList <:+: front.toList ∧ url = front ++ schemeMark ++ back := by
  cases hcut : Text.cutFirst? schemeMark.toList url.toList with
  | none => exact absurd h (Text.free_of_cutFirst?_eq_none hcut)
  | some parts =>
    refine ⟨String.ofList parts.1, String.ofList parts.2, ?_, ?_⟩
    · rw [String.toList_ofList]
      exact Text.free_of_cutFirst? hcut
    · apply String.toList_inj.mp
      simpa using Text.eq_of_cutFirst? hcut

/-- What stands between the scheme mark and the path. -/
def authority (rest : List Char) : List Char := rest.takeWhile (· ≠ '/')

/-- What follows the last user: the host and the path. -/
def hostAndPath (rest : List Char) : List Char :=
  Text.afterLast '@' (authority rest) ++ rest.drop (authority rest).length

section Parts

variable {front : String} (hfree : ¬ schemeMark.toList <:+: front.toList)

include hfree

theorem splitOnce?_schemeMark (rest : String) :
    Text.splitOnce? schemeMark (front ++ schemeMark ++ rest) = some (front, rest) := by
  have hcut : Text.cutFirst? schemeMark.toList (front ++ schemeMark ++ rest).toList =
      some (front.toList, rest.toList) := by
    rw [String.toList_append, String.toList_append, List.append_assoc]
    exact Text.cutFirst?_of_free (by decide) hfree rest.toList
  rw [Text.splitOnce?, hcut]
  simp

/-- A token follows the scheme mark. -/
theorem withToken_append {token : String} (htoken : token ≠ "") (rest : String) :
    withToken (front ++ schemeMark ++ rest) (some token) =
      front ++ schemeMark ++ (token ++ ":@" ++ rest) := by
  have hfilled : token.isEmpty = false := by simpa using htoken
  simp only [withToken, hfilled, Bool.false_eq_true, if_false, Text.replaceFirst,
    splitOnce?_schemeMark hfree]
  simp only [String.append_assoc]

/-- A user in front of the path is hidden, and without one the address is shown as it is. -/
theorem redacted_append (rest : String) :
    redacted (front ++ schemeMark ++ rest) =
      if '@' ∈ authority rest.toList then
        front ++ schemeMark ++ (hiddenUser ++ String.ofList (hostAndPath rest.toList))
      else front ++ schemeMark ++ rest := by
  simp only [redacted, splitOnce?_schemeMark hfree]
  simp only [authority, hostAndPath, String.append_assoc]

end Parts

/-! ## Tokens in front of the host -/

/-- The user of a token without a slash belongs to the authority. -/
theorem authority_token {token : List Char} (h : '/' ∉ token) (back : List Char) :
    authority (token ++ ':' :: '@' :: back) = token ++ ':' :: '@' :: authority back := by
  have htoken : ∀ c ∈ token, decide (c ≠ '/') = true := by
    intro c hc
    exact decide_eq_true fun he => h (he ▸ hc)
  rw [authority, List.takeWhile_append_of_pos htoken]
  rfl

/-- The authority of a token with a slash ends in the token. -/
theorem authority_of_slash {front : List Char} (h : '/' ∉ front) (back : List Char) :
    authority (front ++ '/' :: back) = front := by
  have hfront : ∀ c ∈ front, decide (c ≠ '/') = true := by
    intro c hc
    exact decide_eq_true fun he => h (he ▸ hc)
  rw [authority, List.takeWhile_append_of_pos hfront]
  simp

theorem afterLast_append_cons (mark : Char) (front back : List Char) :
    Text.afterLast mark (front ++ mark :: back) = Text.afterLast mark back := by
  have hreverse : (front ++ mark :: back).reverse = back.reverse ++ mark :: front.reverse := by simp
  rw [Text.afterLast, Text.afterLast, hreverse, List.takeWhile_append]
  split
  · rename_i hall
    have hself : back.reverse.takeWhile (· ≠ mark) = back.reverse :=
      (List.takeWhile_prefix _).eq_of_length hall
    rw [hself]
    simp
  · rfl

/-- A token without a slash leaves nothing behind. -/
theorem hostAndPath_token {token : List Char} (h : '/' ∉ token) (back : List Char) :
    hostAndPath (token ++ ':' :: '@' :: back) = hostAndPath back := by
  have hhost : Text.afterLast '@' (token ++ ':' :: '@' :: authority back) =
      Text.afterLast '@' (authority back) := by
    rw [List.append_cons]
    exact afterLast_append_cons '@' (token ++ [':']) (authority back)
  have hlength : (token ++ ':' :: '@' :: authority back).length =
      (token ++ [':', '@']).length + (authority back).length := by
    simp
    omega
  have hrest : token ++ ':' :: '@' :: back = token ++ [':', '@'] ++ back := by simp
  rw [hostAndPath, authority_token h, hhost, hlength, hrest, ← List.drop_drop, List.drop_left]
  rfl

/-- What is left of an address is no longer than what follows its scheme mark. -/
theorem length_hostAndPath_le (rest : List Char) : (hostAndPath rest).length ≤ rest.length := by
  have hhost : (Text.afterLast '@' (authority rest)).length ≤ (authority rest).length := by
    rw [Text.afterLast, List.length_reverse]
    exact (List.takeWhile_prefix _).length_le.trans_eq List.length_reverse
  have hall : (authority rest).length ≤ rest.length := (List.takeWhile_prefix _).length_le
  rw [hostAndPath, List.length_append, List.length_drop]
  omega

/-! ## What is shown of a token -/

section Shown

variable {front token : String} (hfree : ¬ schemeMark.toList <:+: front.toList)
  (htoken : token ≠ "")

include hfree htoken

/-- A token without a slash is hidden. -/
theorem redacted_withToken (hslash : '/' ∉ token.toList) (back : String) :
    redacted (withToken (front ++ schemeMark ++ back) (some token)) =
      front ++ schemeMark ++ (hiddenUser ++ String.ofList (hostAndPath back.toList)) := by
  have hrest : (token ++ ":@" ++ back).toList = token.toList ++ ':' :: '@' :: back.toList := by simp
  have huser : '@' ∈ authority (token ++ ":@" ++ back).toList := by
    rw [hrest, authority_token hslash]
    simp
  rw [withToken_append hfree htoken, redacted_append hfree, if_pos huser, hrest,
    hostAndPath_token hslash]

/-- A token with a slash leaves another text than a hidden one: either it is shown with all that
follows, or from its last at-sign before the slash on. -/
theorem redacted_withToken_ne (hslash : '/' ∈ token.toList) (back : String) :
    redacted (withToken (front ++ schemeMark ++ back) (some token)) ≠
      front ++ schemeMark ++ (hiddenUser ++ String.ofList (hostAndPath back.toList)) := by
  obtain ⟨before, after, hparts, hbefore⟩ := List.eq_append_cons_of_mem hslash
  have hrest : (token ++ ":@" ++ back).toList =
      before ++ '/' :: (after ++ ':' :: '@' :: back.toList) := by
    simp [hparts]
  have hauthority : authority (token ++ ":@" ++ back).toList = before := by
    rw [hrest, authority_of_slash hbefore]
  rw [withToken_append hfree htoken, redacted_append hfree, hauthority]
  split
  · -- The shown text is longer than any that follows a hidden token.
    intro heq
    have hlist := String.ofList_inj.mp
      ((String.append_right_inj _).mp ((String.append_right_inj _).mp heq))
    have htail := congrArg List.length hlist
    have hshort := length_hostAndPath_le back.toList
    rw [hostAndPath, hauthority, hrest] at htail
    simp at htail
    omega
  · -- The shown text has no at-sign in front of its first slash.
    rename_i hvisible
    intro heq
    have htail := congrArg (fun text => authority text.toList) ((String.append_right_inj _).mp heq)
    have hhidden :
        '@' ∈ authority (hiddenUser ++ String.ofList (hostAndPath back.toList)).toList := by
      rw [String.toList_append, String.toList_ofList]
      simp [authority, hiddenUser]
    rw [← htail] at hhidden
    exact hvisible (hauthority ▸ hhidden)

end Shown

/-- What is shown of an address does not depend on the token spliced into it, as long as no token
holds a slash. One that does is told from all the others. -/
theorem redacted_withToken_eq_iff {url token other : String} (hurl : HasScheme url)
    (htoken : token ≠ "") (hother : other ≠ "") (hplain : '/' ∉ other.toList) :
    redacted (withToken url (some token)) = redacted (withToken url (some other)) ↔
      '/' ∉ token.toList := by
  obtain ⟨front, back, hfree, rfl⟩ := hurl.exists_parts
  rw [redacted_withToken hfree hother hplain]
  constructor
  · intro heq hslash
    exact redacted_withToken_ne hfree htoken hslash back heq
  · intro hslash
    exact redacted_withToken hfree htoken hslash back

theorem redacted_withToken_sesame :
    redacted (withToken "https://example.org/greetings.git" (some "open@sesame")) =
      redacted (withToken "https://example.org/greetings.git" (some "sesame")) :=
  (redacted_withToken_eq_iff (by decide) (by decide) (by decide) (by decide)).mpr (by decide)

/-- A slash in the token ends the search for the user in front of its at-sign, and the token is
shown. -/
theorem not_redacted_withToken_eq :
    ¬ ∀ url token other : String, HasScheme url → token ≠ "" → other ≠ "" →
      redacted (withToken url (some token)) = redacted (withToken url (some other)) := by
  intro hall
  have heq := hall "https://example.org/greetings.git" "ses/ame" "sesame"
    (by decide) (by decide) (by decide)
  have hshown : redacted (withToken "https://example.org/greetings.git" (some "ses/ame")) =
      "https://ses/ame:@example.org/greetings.git" := by
    decide
  have hhidden : redacted (withToken "https://example.org/greetings.git" (some "sesame")) =
      "https://[REDACTED]@example.org/greetings.git" := by
    decide
  rw [hshown, hhidden] at heq
  exact absurd heq (by decide)

end TaskEngine.CloneUrl
