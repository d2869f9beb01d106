import EtcdRoster.Proofs.Dns.Member

/-!
# Domains in a search

* `resolveMember_dotted` — dots at the end of the domain make no difference to a search.
* `stripDomain_eq_iff`, `stripDomain_dotted` — how a name is shortened, and that dots at the end of
  the domain do make a difference there.
* `bareName_eq_iff` — how a target becomes a name.
-/

namespace EtcdRoster.Dns

variable {domain name : String}

/-! ## Dots at the end of the domain -/

/-- The domain with some dots added at its end. -/
def dotted (domain : String) (dots : Nat) : String :=
  domain ++ String.ofList (List.replicate dots '.')

theorem serviceName_dotted (service proto domain : String) (dots : Nat) :
    serviceName service proto (dotted domain dots) = serviceName service proto domain := by
  have htext : serviceText service proto (dotted domain dots)
      = serviceText service proto domain := by
    simp only [serviceText, dotted, String.toList_append, String.toList_ofList,
      Text.trimEnd_append_replicate]
  rw [serviceName, serviceName, htext]

/-- Dots at the end of the domain make no difference to a search. -/
theorem resolveMember_dotted (service proto domain : String) (dots : Nat) (ip : IpAddress) :
    resolveMember service proto (dotted domain dots) ip = resolveMember service proto domain ip := by
  rw [resolveMember, resolveMember, serviceName_dotted]

/-! ## Short names -/

/-- A name without the domain and the dot before it if it ends so, and the whole name if not. -/
def Shortens (domain name short : String) : Prop :=
  name = short ++ "." ++ domain ∨ short = name ∧ ∀ rest, name ≠ rest ++ "." ++ domain

theorem stripDomain_eq_iff {short : String} :
    stripDomain name domain = short ↔ Shortens domain name short := by
  have hends : ∀ rest : List Char, name.toList = rest ++ '.' :: domain.toList ↔
      name = String.ofList rest ++ "." ++ domain := by
    intro rest
    rw [← String.toList_inj]
    simp
  unfold stripDomain Shortens
  cases hrest : Text.dropEnding? ('.' :: domain.toList) name.toList with
  | some rest =>
    have hname := (hends rest).mp (Text.dropEnding?_eq_some_iff.mp hrest)
    dsimp only
    constructor
    · rintro rfl
      exact .inl hname
    · rintro (h | ⟨-, h⟩)
      · rw [hname] at h
        simpa using h
      · exact absurd hname (h _)
  | none =>
    have hwhole : ∀ rest, name ≠ rest ++ "." ++ domain := by
      intro rest hname
      have hdrop := Text.dropEnding?_eq_some_iff.mpr
        ((hends rest.toList).mpr (by rwa [String.ofList_toList]))
      rw [hrest] at hdrop
      cases hdrop
    dsimp only
    constructor
    · rintro rfl
      exact .inr ⟨rfl, hwhole⟩
    · rintro (h | ⟨h, -⟩)
      · exact absurd h (hwhole short)
      · exact h.symm

/-- No name that does not end in a dot is shortened by a domain that does. -/
theorem stripDomain_dotted {dots : Nat} (hdots : 0 < dots) (h : name.toList.getLast? ≠ some '.') :
    stripDomain name (dotted domain dots) = name := by
  refine stripDomain_eq_iff.mpr (.inr ⟨rfl, ?_⟩)
  rintro rest rfl
  refine h ?_
  obtain ⟨n, rfl⟩ : ∃ n, dots = n + 1 := ⟨dots - 1, by omega⟩
  have hlast : (rest ++ "." ++ dotted domain (n + 1)).toList
      = (rest.toList ++ '.' :: (domain.toList ++ List.replicate n '.')) ++ ['.'] := by
    simp [dotted, List.replicate_succ']
  rw [hlast, List.getLast?_concat]

/-! ## Names without dots at their ends -/

/-- A target is a name between any number of dots. -/
structure Bares (target name : String) : Prop where
  between : ∃ m n, target.toList = List.replicate m '.' ++ name.toList ++ List.replicate n '.'
  first : name.toList.head? ≠ some '.'
  last : name.toList.getLast? ≠ some '.'

theorem bareName_eq_iff {target : String} : bareName target = name ↔ Bares target name := by
  have hlist : bareName target = name ↔ Text.trimBoth '.' target.toList = name.toList := by
    rw [bareName, ← String.toList_inj, String.toList_ofList]
  rw [hlist, Text.trimBoth_eq_iff]
  constructor
  · rintro ⟨hbetween, hfirst, hlast⟩
    exact ⟨hbetween, hfirst, hlast⟩
  · rintro ⟨hbetween, hfirst, hlast⟩
    exact ⟨hbetween, hfirst, hlast⟩

end EtcdRoster.Dns
