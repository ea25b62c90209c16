import BuildForm.Proofs.Rule.Mail

/-
  Lists of e-mail addresses.

  A list falls into parts at its spaces, and each part has to
  be an address. Addresses put together are a list if each of
  them is one by itself. This holds of an address without a
  space, but not of one at a named domain that has a space
  between its quotes.

  Main declarations:
    * `Rule.isMailList_iff`
    * `Rule.isMailList_join_iff`
    * `Rule.isMailList_at_domain_iff`
    * `Rule.joined_mails_are_lists_by_themselves`
-/

------------------------------------------------------------
-- Parts of Lists
------------------------------------------------------------

namespace BuildForm

namespace Rule

variable {value : String}

/- A text with a space falls apart on both sides of it. -/
theorem splitOn_space (left right : List Char) :
    (left ++ ' ' :: right).splitOn ' ' =
      left.splitOn ' ' ++ right.splitOn ' ' := by
  simp only [List.splitOn_eq_splitOnP]
  exact List.splitOnP_append_cons left right rfl

theorem isMailList_iff (hNonempty : value ≠ "") :
    isMailList value ↔
      ∀ part ∈ value.toList.splitOn ' ',
        isMail (String.ofList part) := by
  simp [isMailList, hNonempty]

theorem at_mem_of_isMail (hMail : isMail value) :
    '@' ∈ value.toList := by
  rcases (isMail_iff value).mp hMail with
    ⟨before, domain, hValue, _⟩
  simp [hValue]

theorem ne_empty_of_isMail (hMail : isMail value) :
    value ≠ "" := by
  rintro rfl
  exact absurd (at_mem_of_isMail hMail) (by simp)

/- An address without a space is the only part of its list. -/
theorem isMailList_of_space_not_mem
    (hMail : isMail value)
    (hSpace : ' ' ∉ value.toList) :
    isMailList value := by
  rw [isMailList_iff (ne_empty_of_isMail hMail),
    List.splitOn_eq_singleton hSpace]
  simpa using hMail

end Rule

end BuildForm

------------------------------------------------------------
-- Joined Addresses
------------------------------------------------------------

namespace BuildForm

namespace Rule

variable {addresses : List String}

/- The parts of joined texts are the parts of each of them. -/
theorem splitOn_join (hSome : addresses ≠ []) :
    (" ".intercalate addresses).toList.splitOn ' ' =
      addresses.flatMap fun address =>
        address.toList.splitOn ' ' := by
  induction addresses with
  | nil => exact absurd rfl hSome
  | cons address rest ih =>
      by_cases hRest : rest = []
      · subst hRest
        simp
      · rw [String.intercalate_cons_of_ne_nil hRest,
          String.toList_append, String.toList_append,
          List.append_assoc, List.flatMap_cons, ← ih hRest]
        exact splitOn_space _ _

theorem join_ne_empty
    (hSome : addresses ≠ [])
    (hMails : ∀ address ∈ addresses, isMail address) :
    " ".intercalate addresses ≠ "" := by
  cases addresses with
  | nil => exact absurd rfl hSome
  | cons address rest =>
      have hFirst := ne_empty_of_isMail (hMails address (by simp))
      cases rest with
      | nil => simpa using hFirst
      | cons next rest => simp [String.append_eq_empty_iff, hFirst]

theorem isMailList_join_iff
    (hSome : addresses ≠ [])
    (hMails : ∀ address ∈ addresses, isMail address) :
    isMailList (" ".intercalate addresses) ↔
      ∀ address ∈ addresses, isMailList address := by
  rw [isMailList_iff (join_ne_empty hSome hMails),
    splitOn_join hSome]
  constructor
  · intro hParts address hAddress
    rw [isMailList_iff (ne_empty_of_isMail (hMails address hAddress))]
    intro part hPart
    exact hParts part (List.mem_flatMap_of_mem hAddress hPart)
  · intro hLists part hPart
    rcases List.mem_flatMap.mp hPart with
      ⟨address, hAddress, hPart⟩
    have hNonempty := ne_empty_of_isMail (hMails address hAddress)
    exact
      (isMailList_iff hNonempty).mp (hLists address hAddress) part
        hPart

end Rule

end BuildForm

------------------------------------------------------------
-- Addresses at Named Domains
------------------------------------------------------------

namespace BuildForm

namespace Rule

variable {address : String}
variable {before domain : List Char}

/-
  What stands before the first space of a local part has no
  sign in it and is no address.
-/
theorem isMailList_at_domain_iff
    (hMail : isMail address)
    (hText : address.toList = before ++ '@' :: domain)
    (hDomain : IsDomainName domain) :
    isMailList address ↔ ' ' ∉ before := by
  have hLocal := (isMail_at_domain_iff hText hDomain).mp hMail
  constructor
  · intro hList hSpace
    rw [isMailList_iff (ne_empty_of_isMail hMail), hText] at hList
    rcases List.eq_append_cons_of_mem hSpace with
      ⟨head, tail, rfl, hHead⟩
    rw [List.append_assoc, List.cons_append, splitOn_space,
      List.splitOn_eq_singleton hHead] at hList
    have hFirst := at_mem_of_isMail (hList head (by simp))
    rw [String.toList_ofList] at hFirst
    exact hLocal.at_not_mem (by simp [hFirst])
  · intro hSpace
    apply isMailList_of_space_not_mem hMail
    have hDomainSpace : ' ' ∉ domain :=
      not_mem_of_plain hDomain.plain (by simp)
    rw [hText]
    simp [hSpace, hDomainSpace]

/-
  Addresses put together are a list if each of them is one by
  itself, as all are that have no space. If one of them has a
  space before a named domain, they are no list.
-/
theorem joined_mails_are_lists_by_themselves
    {addresses : List String}
    (hSome : addresses ≠ [])
    (hMails : ∀ address ∈ addresses, isMail address) :
    (isMailList (" ".intercalate addresses) ↔
        ∀ address ∈ addresses, isMailList address) ∧
      (∀ address ∈ addresses,
        ' ' ∉ address.toList → isMailList address) ∧
      ∀ address ∈ addresses,
        ∀ before domain,
          address.toList = before ++ '@' :: domain →
          IsDomainName domain →
          (isMailList address ↔ ' ' ∉ before) := by
  refine ⟨isMailList_join_iff hSome hMails, ?_, ?_⟩
  · intro address hAddress hSpace
    exact isMailList_of_space_not_mem (hMails address hAddress) hSpace
  · intro address hAddress before domain hText hDomain
    exact
      isMailList_at_domain_iff (hMails address hAddress) hText
        hDomain

/- Two addresses without a space. -/
theorem joined_mails_are_lists_by_themselves_two :
    isMailList (" ".intercalate ["ann@lab.org", "bob@[10.0.0.1]"]) := by
  have hMails :
      ∀ address ∈ ["ann@lab.org", "bob@[10.0.0.1]"],
        isMail address := by
    decide
  have hJoined :=
    joined_mails_are_lists_by_themselves (by simp) hMails
  refine hJoined.1.mpr fun address hAddress => ?_
  refine hJoined.2.1 address hAddress ?_
  revert address
  decide

/- A space between quotes makes two parts of one address. -/
theorem not_every_mail_is_list :
    ¬∀ addresses : List String,
      addresses ≠ [] →
      (∀ address ∈ addresses, isMail address) →
      isMailList (" ".intercalate addresses) := by
  intro hEvery
  have hMails :
      ∀ address ∈ ["\"john doe\"@example.com"], isMail address := by
    decide
  have hJoined := hEvery _ (by simp) hMails
  rw [String.intercalate_singleton] at hJoined
  exact absurd hJoined (by decide)

end Rule

end BuildForm
