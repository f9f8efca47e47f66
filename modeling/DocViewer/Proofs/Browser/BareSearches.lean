import DocViewer.Proofs.Browser.Likeness
import DocViewer.Proofs.Browser.PlainPages
import DocViewer.Proofs.Link.References
import DocViewer.Proofs.Text.Blank

/-!
# Searching for a bare name

A bare name refers to a page in the default sections (`ofSearch_bare`), as does the URL of that page in these sections,
if the name and the sections can stand in one (`ofSearch_manUrl_eq`). They can unless one of them holds a newline, or
the sections are empty or hold a `(` before their end: a `(` in the name is no harm, since a URL is read from its end.

`bare_search_as_url`: in these cases, and in no other, the two searches refer to the same page. Then they do the same in
sessions that are the same.
-/

namespace DocViewer

namespace Target

/-- The URL of a page in sections. -/
def manUrl (page sections : Text) : Text := manScheme ++ (page ++ '(' :: (sections ++ [')']))

/-- A URL has no white space at its ends. -/
theorem trim_manUrl (page sections : Text) : trim (manUrl page sections) = manUrl page sections := by
  refine trim_eq_self (fun c hc => ?_) (fun c hc => ?_)
  · have hfront : 'm' = c := Option.some.inj hc
    rw [← hfront]
    rfl
  · have hwritten : manUrl page sections = manScheme ++ page ++ '(' :: sections ++ [')'] := by simp [manUrl]
    rw [hwritten, List.getLast?_concat] at hc
    rw [← Option.some.inj hc]
    rfl

/-- A URL names the page and the sections that it is made of, if they can stand in one. -/
theorem ofSearch_manUrl_eq {page sections : Text} (hpage : page ≠ []) (defaults : Text) :
    ofSearch (manUrl page sections) defaults = .man page sections ↔
      '\n' ∉ page ∧ '\n' ∉ sections ∧ sections ≠ [] ∧ '(' ∉ sections.dropLast := by
  have hscheme : manScheme <+: trim (manUrl page sections) := by
    rw [trim_manUrl]
    exact ⟨_, rfl⟩
  rw [ofSearch_manUrl hscheme, trim_manUrl, ofManUrl_eq_man]
  constructor
  · intro h
    exact ⟨h.page_line, h.sections_line, h.sections_ne, h.innermost⟩
  · rintro ⟨hline, hline', hsections, hinner⟩
    exact ⟨rfl, hpage, hsections, hline, hline', hinner⟩

/-- A bare name is a page of the default sections. -/
theorem ofSearch_bare {text : Text} (hman : ¬manScheme <+: trim text) (hstl : ¬stlScheme <+: trim text)
    (defaults : Text) : ofSearch text defaults = .man (trim text) defaults := by
  rw [ofSearch, if_neg (mt isSome_dropPrefix?.mp hman), if_neg (mt isSome_dropPrefix?.mp hstl)]

end Target

open Target

namespace Session

/-- Searches that refer to the same give the same results in sessions that are the same, and leave the same. -/
theorem Same.search {ω : Type} [Writer ω] {s s' : Session ω} (h : Same s s') {text text' : Text}
    (hsame : ofSearch text s.browser.config.sections = ofSearch text' s.browser.config.sections) :
    Parallel (s.search text) (s'.search text') := by
  rw [Session.search, Session.search, ← h.browser, hsame]
  exact h.visit _

/-- **A bare search is a search by URL.** A search for a name without a scheme refers to the same page as a search for
the URL of this name in the default sections, whatever the default sections are then, exactly if neither the name nor
the sections hold a newline and the sections are not empty and hold no `(` but at their end. If so, the two searches
give equal results in sessions that are the same with these default sections: the same commands are run, and what was
written and the title of the window are the same. -/
theorem bare_search_as_url (text sections : Text) (hname : trim text ≠ []) (hman : ¬manScheme <+: trim text)
    (hstl : ¬stlScheme <+: trim text) :
    (∀ defaults, ofSearch text sections = ofSearch (manUrl (trim text) sections) defaults ↔
      '\n' ∉ trim text ∧ '\n' ∉ sections ∧ sections ≠ [] ∧ '(' ∉ sections.dropLast) ∧
    ('\n' ∉ trim text ∧ '\n' ∉ sections ∧ sections ≠ [] ∧ '(' ∉ sections.dropLast →
      ∀ {ω : Type} [Writer ω] (s s' : Session ω), s.browser.config.sections = sections → Same s s' →
        Parallel (s.search text) (s'.search (manUrl (trim text) sections))) := by
  have hbare := ofSearch_bare hman hstl sections
  have hagree : ∀ defaults, ofSearch text sections = ofSearch (manUrl (trim text) sections) defaults ↔
      '\n' ∉ trim text ∧ '\n' ∉ sections ∧ sections ≠ [] ∧ '(' ∉ sections.dropLast := by
    intro defaults
    rw [hbare, eq_comm]
    exact ofSearch_manUrl_eq hname defaults
  refine ⟨hagree, ?_⟩
  rintro hwritable ω _ s s' rfl hsame
  exact hsame.search ((hagree _).mpr hwritable)

/-- A browser that searches these sections when none is given, where every program prints an `x`. -/
def preferring (sections : Text) : Session Sink := { printing "x".toList with browser.config.sections := sections }

/-- The name may start with dashes and hold spaces, colons and parentheses; the sections may end with a `(`, but not
hold another. -/
theorem bare_search_as_url_parentheses :
    (trim " -std::f(x) a ".toList ≠ [] ∧ ¬manScheme <+: trim " -std::f(x) a ".toList ∧
      ¬stlScheme <+: trim " -std::f(x) a ".toList) ∧
    ofSearch " -std::f(x) a ".toList "2:3(".toList = ofSearch "man:-std::f(x) a(2:3()".toList "1".toList ∧
    ofSearch " -std::f(x) a ".toList "(2".toList ≠ ofSearch "man:-std::f(x) a((2)".toList "1".toList ∧
    ((preferring "2:3(".toList).search " -std::f(x) a ".toList).1 =
      ((preferring "2:3(".toList).search "man:-std::f(x) a(2:3()".toList).1 ∧
    ((preferring "2:3(".toList).search " -std::f(x) a ".toList).2.viewport =
      ((preferring "2:3(".toList).search "man:-std::f(x) a(2:3()".toList).2.viewport := by
  have hname : trim " -std::f(x) a ".toList ≠ [] ∧ ¬manScheme <+: trim " -std::f(x) a ".toList ∧
      ¬stlScheme <+: trim " -std::f(x) a ".toList := by decide
  have hurl := fun sections => bare_search_as_url _ sections hname.1 hname.2.1 hname.2.2
  have hwritable : '\n' ∉ trim " -std::f(x) a ".toList ∧ '\n' ∉ "2:3(".toList ∧ "2:3(".toList ≠ [] ∧
      '(' ∉ "2:3(".toList.dropLast := by decide
  obtain ⟨hresult, hleft⟩ := (hurl _).2 hwritable (preferring "2:3(".toList) _ rfl (Same.refl _)
  exact ⟨hname, ((hurl _).1 _).mpr hwritable, mt ((hurl _).1 _).mp (by decide), hresult, hleft.viewport⟩

end Session

end DocViewer
