import Scaffold.Text.Letter

/-! # Title case

  A name such as `my-cool_app` as a title, `My Cool App`. Words begin after
  separators and where a capital follows a small letter; every word starts with
  a capital. Only ASCII letters change case.
-/

namespace Scaffold.Text

/-- What is known while a title is built from left to right. -/
structure TitleState where
  /-- The next letter or number begins a word. -/
  newWord : Bool := true
  /-- The last character that stands inside a word. -/
  last : Char := ' '
  /-- Nothing has been written yet. -/
  first : Bool := true

/-- The title of the remaining characters. A separator only marks that a word ends. -/
def titleChars (st : TitleState) : List Char → List Char
  | [] => []
  | c :: rest =>
    if !isAlphanumeric c then titleChars { st with newWord := true } rest
    else if st.newWord || (isLowercase st.last && isUppercase c) then
      (if st.first then [c.toUpper] else [' ', c.toUpper]) ++
        titleChars { st with newWord := false, first := false } rest
    else c.toLower :: titleChars { st with last := c } rest

/-- The text as a title. -/
def titleCase (s : String) : String := String.ofList (titleChars {} s.toList)

end Scaffold.Text
