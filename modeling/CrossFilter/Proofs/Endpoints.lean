import CrossFilter.Backend.Service
import CrossFilter.Command.Run
import Mathlib.Data.List.TakeWhile

/-!
# Endpoints

The URL of an endpoint is the base URL and a path, with one slash between them, however many there
were. A base URL that is nothing but a scheme and slashes is taken for valid, although a slash of
the scheme goes when a path is joined to it. `endpoints_exact` says that no other valid base URL
loses its scheme. Variables and arguments never give such a URL, since their slashes are cut off
before they are validated (`Command.Invocation.absolute_endpoint`).
-/

namespace CrossFilter

/-! ## Characters at the ends of a text -/

namespace Text

/-- A character, any number of times. -/
def repeated (c : Char) (n : Nat) : String := String.ofList (List.replicate n c)

/-- What is left of a text without the `c` at its end. -/
structure IsStem (c : Char) (s stem : String) : Prop where
  cut : ∃ n, s = stem ++ repeated c n
  last : stem.toList.getLast? ≠ some c

/-- What is left of a text without the `c` at its start. -/
structure IsRest (c : Char) (s rest : String) : Prop where
  cut : ∃ n, s = repeated c n ++ rest
  first : rest.toList.head? ≠ some c

variable {c : Char} {s t stem rest : String}

theorem repeated_add (c : Char) (m n : Nat) :
    repeated c (m + n) = repeated c m ++ repeated c n := by
  rw [repeated, repeated, repeated, ← List.replicate_append_replicate, String.ofList_append]

theorem exists_replicate_append_dropWhile (c : Char) (cs : List Char) :
    ∃ n, cs = List.replicate n c ++ cs.dropWhile (· == c) := by
  refine ⟨(cs.takeWhile (· == c)).length, ?_⟩
  have htake : cs.takeWhile (· == c) = List.replicate (cs.takeWhile (· == c)).length c :=
    List.eq_replicate_of_mem fun d hd => by simpa using List.mem_takeWhile_imp hd
  rw [← htake, List.takeWhile_append_dropWhile]

theorem head?_dropWhile_ne (c : Char) (cs : List Char) :
    (cs.dropWhile (· == c)).head? ≠ some c := by
  intro h
  have hnot := List.head?_dropWhile_not (· == c) cs
  simp [h] at hnot

theorem dropWhile_eq_self_of_head? {cs : List Char} (h : cs.head? ≠ some c) :
    cs.dropWhile (· == c) = cs := by
  cases cs with
  | nil => rfl
  | cons d cs =>
    have hd : d ≠ c := by simpa using h
    simp [hd]

theorem isRest_dropLeading (c : Char) (s : String) : IsRest c s (dropLeading c s) where
  cut := by
    obtain ⟨n, hn⟩ := exists_replicate_append_dropWhile c s.toList
    refine ⟨n, ?_⟩
    rw [repeated, dropLeading, ← String.ofList_append, ← hn, String.ofList_toList]
  first := by
    rw [dropLeading, String.toList_ofList]
    exact head?_dropWhile_ne c s.toList

theorem IsRest.eq (h : IsRest c s rest) : dropLeading c s = rest := by
  obtain ⟨⟨n, rfl⟩, hfirst⟩ := h
  rw [dropLeading, String.toList_append, repeated, String.toList_ofList,
    List.dropWhile_append_of_pos (by simp), dropWhile_eq_self_of_head? hfirst, String.ofList_toList]

theorem IsRest.pad (h : IsRest c s rest) (n : Nat) : IsRest c (repeated c n ++ s) rest := by
  obtain ⟨⟨m, rfl⟩, hfirst⟩ := h
  exact ⟨⟨n + m, by rw [repeated_add, String.append_assoc]⟩, hfirst⟩

theorem isStem_dropTrailing (c : Char) (s : String) : IsStem c s (dropTrailing c s) where
  cut := by
    obtain ⟨n, hn⟩ := exists_replicate_append_dropWhile c s.toList.reverse
    refine ⟨n, ?_⟩
    have hs := congrArg List.reverse hn
    rw [List.reverse_reverse, List.reverse_append, List.reverse_replicate] at hs
    rw [repeated, dropTrailing, ← String.ofList_append, ← hs, String.ofList_toList]
  last := by
    rw [dropTrailing, String.toList_ofList, List.getLast?_reverse]
    exact head?_dropWhile_ne c s.toList.reverse

theorem IsStem.eq (h : IsStem c s stem) : dropTrailing c s = stem := by
  obtain ⟨⟨n, rfl⟩, hlast⟩ := h
  rw [← List.head?_reverse] at hlast
  rw [dropTrailing, String.toList_append, repeated, String.toList_ofList, List.reverse_append,
    List.reverse_replicate, List.dropWhile_append_of_pos (by simp),
    dropWhile_eq_self_of_head? hlast, List.reverse_reverse, String.ofList_toList]

theorem IsStem.pad (h : IsStem c s stem) (n : Nat) : IsStem c (s ++ repeated c n) stem := by
  obtain ⟨⟨m, rfl⟩, hlast⟩ := h
  exact ⟨⟨m + n, by rw [repeated_add, String.append_assoc]⟩, hlast⟩

theorem IsStem.append (h : IsStem c t stem) (hne : stem ≠ "") (s : String) :
    IsStem c (s ++ t) (s ++ stem) := by
  obtain ⟨⟨n, rfl⟩, hlast⟩ := h
  refine ⟨⟨n, by rw [String.append_assoc]⟩, ?_⟩
  cases hd : stem.toList.getLast? with
  | none => exact absurd (List.getLast?_eq_none_iff.1 hd) (by simpa using hne)
  | some d => simpa [List.getLast?_append, hd] using hlast

end Text

/-! ## URLs -/

namespace Backend

open Text

def schemes : List String := ["http://", "https://"]

/-- The URL begins with a scheme and the slashes behind it. -/
def Absolute (url : String) : Prop := ∃ scheme ∈ schemes, scheme.toList <+: url.toList

/-- The URL is nothing but a scheme and slashes. -/
def Bare (url : String) : Prop := ∃ scheme ∈ schemes, ∃ n, url = scheme ++ repeated '/' n

/-- A base URL without the slashes at its end, one slash, and a path without the slashes at its
start. -/
def Joined (base path url : String) : Prop :=
  ∃ stem rest, IsStem '/' base stem ∧ IsRest '/' path rest ∧ url = stem ++ "/" ++ rest

theorem absolute_iff {url : String} :
    Absolute url ↔ ∃ scheme ∈ schemes, ∃ rest, url = scheme ++ rest := by
  refine exists_congr fun scheme => and_congr_right fun _ => ⟨?_, ?_⟩
  · rintro ⟨rest, h⟩
    refine ⟨String.ofList rest, ?_⟩
    rw [← String.toList_inj, String.toList_append, String.toList_ofList, h]
  · rintro ⟨rest, rfl⟩
    exact ⟨rest.toList, String.toList_append.symm⟩

theorem hasScheme_iff {url : String} : Settings.hasScheme url = true ↔ Absolute url := by
  simp [Settings.hasScheme, startsWith, Absolute, schemes]

theorem Bare.getLast? {url : String} (h : Bare url) : url.toList.getLast? = some '/' := by
  obtain ⟨scheme, hscheme, n, rfl⟩ := h
  have hall : ∀ scheme ∈ schemes, scheme.toList.getLast? = some '/' := by decide
  cases n with
  | zero => simpa [repeated] using hall scheme hscheme
  | succ n => simp [repeated, List.getLast?_replicate]

/-- Without its slashes, a bare URL is the name of its scheme and a colon. -/
theorem Bare.exists_isStem {url : String} (h : Bare url) :
    ∃ name ∈ ["http:", "https:"], IsStem '/' url name := by
  obtain ⟨scheme, hscheme, n, rfl⟩ := h
  have hscheme' : scheme = "http://" ∨ scheme = "https://" := by simpa [schemes] using hscheme
  rcases hscheme' with rfl | rfl
  · have hstem : IsStem '/' "http://" "http:" := ⟨⟨2, rfl⟩, by decide⟩
    exact ⟨_, by simp, hstem.pad n⟩
  · have hstem : IsStem '/' "https://" "https:" := ⟨⟨2, rfl⟩, by decide⟩
    exact ⟨_, by simp, hstem.pad n⟩

/-- One slash is too few behind the name of a scheme. -/
theorem not_absolute_of_name {name rest : String} (hname : name ∈ ["http:", "https:"])
    (hrest : rest.toList.head? ≠ some '/') : ¬ Absolute (name ++ "/" ++ rest) := by
  have hname' : name = "http:" ∨ name = "https:" := by simpa using hname
  rintro ⟨scheme, hscheme, h⟩
  have hscheme' : scheme = "http://" ∨ scheme = "https://" := by simpa [schemes] using hscheme
  have hslash : rest.toList.head? = some '/' := by
    rcases hname' with rfl | rfl <;> rcases hscheme' with rfl | rfl
    · obtain ⟨cs, hcs⟩ : ∃ cs, rest.toList = '/' :: cs := by simpa [List.cons_prefix_iff] using h
      simp [hcs]
    · simp [List.cons_prefix_iff] at h
    · simp [List.cons_prefix_iff] at h
    · obtain ⟨cs, hcs⟩ : ∃ cs, rest.toList = '/' :: cs := by simpa [List.cons_prefix_iff] using h
      simp [hcs]
  exact hrest hslash

namespace Settings

variable {s : Settings}

theorem validate_ok_iff : s.validate = .ok () ↔ Absolute s.baseUrl := by
  have hblank : Absolute s.baseUrl → allBlank s.baseUrl = false := by
    rintro ⟨scheme, hscheme, h⟩
    have hall : ∀ scheme ∈ schemes, 'h' ∈ scheme.toList := by decide
    exact allBlank_eq_false (h.subset (hall scheme hscheme)) (by decide)
  rw [← hasScheme_iff] at hblank ⊢
  unfold validate
  split_ifs with hempty hscheme
  · simpa [hempty] using hblank
  · simp [hscheme]
  · simp [hscheme]

theorem joined_endpoint (s : Settings) (path : String) :
    Joined s.baseUrl path (s.endpoint path) :=
  ⟨_, _, isStem_dropTrailing '/' s.baseUrl, isRest_dropLeading '/' path, rfl⟩

theorem endpoint_eq {path url : String} (h : Joined s.baseUrl path url) : s.endpoint path = url := by
  obtain ⟨stem, rest, hstem, hrest, rfl⟩ := h
  rw [endpoint, hstem.eq, hrest.eq]

/-- Slashes that are added at the end of the base URL or at the start of the path do not show. -/
theorem endpoint_pad (s : Settings) (path : String) (m n : Nat) :
    { s with baseUrl := s.baseUrl ++ repeated '/' m }.endpoint (repeated '/' n ++ path) =
      s.endpoint path :=
  endpoint_eq ⟨_, _, (isStem_dropTrailing '/' s.baseUrl).pad m, (isRest_dropLeading '/' path).pad n,
    rfl⟩

theorem not_absolute_endpoint (h : Bare s.baseUrl) (path : String) :
    ¬ Absolute (s.endpoint path) := by
  obtain ⟨name, hname, hstem⟩ := h.exists_isStem
  rw [endpoint, hstem.eq]
  exact not_absolute_of_name hname (isRest_dropLeading '/' path).first

theorem absolute_endpoint (h : Absolute s.baseUrl) (hbare : ¬ Bare s.baseUrl) (path : String) :
    Absolute (s.endpoint path) := by
  obtain ⟨scheme, hscheme, rest, hrest⟩ := absolute_iff.1 h
  -- Behind the scheme stands something else than slashes, and nothing of the scheme is cut off.
  have hrestStem := isStem_dropTrailing '/' rest
  have hne : dropTrailing '/' rest ≠ "" := by
    intro hempty
    obtain ⟨n, hn⟩ := hrestStem.cut
    rw [hempty, String.empty_append] at hn
    exact hbare ⟨scheme, hscheme, n, by rw [hrest, hn]⟩
  have hstem := (hrestStem.append hne scheme).eq
  rw [endpoint, hrest, hstem, String.append_assoc, String.append_assoc]
  exact absolute_iff.2 ⟨scheme, hscheme, _, rfl⟩

theorem absolute_endpoint_iff (h : s.validate = .ok ()) (path : String) :
    Absolute (s.endpoint path) ↔ ¬ Bare s.baseUrl :=
  ⟨fun habsolute hbare => not_absolute_endpoint hbare path habsolute,
    fun hbare => absolute_endpoint (validate_ok_iff.1 h) hbare path⟩

end Settings

/-- What the endpoints of some settings, and the messages of a client for them, go to. -/
structure Settings.EndpointsExact (s : Settings) : Prop where
  joined : ∀ path, Joined s.baseUrl path (s.endpoint path)
  padded : ∀ path m n,
    { s with baseUrl := s.baseUrl ++ repeated '/' m }.endpoint (repeated '/' n ++ path) =
      s.endpoint path
  absolute_iff : ∀ path, Absolute (s.endpoint path) ↔ ¬ Bare s.baseUrl
  messages : ∀ c, Client.ofSettings s = .ok c → ∀ e body,
    Absolute (c.message e body).url ↔ ¬ Bare s.baseUrl

theorem Client.settings_of_ofSettings {s : Settings} {c : Client} (h : ofSettings s = .ok c) :
    c.settings = s := by
  unfold ofSettings at h
  cases hvalid : s.validate with
  | error failure =>
    rw [hvalid] at h
    cases h
  | ok _ =>
    rw [hvalid] at h
    change (if s.token.all fun t => t.toList.all isHeaderChar then pure ⟨s⟩ else throw _) =
      Except.ok c at h
    split_ifs at h
    cases h
    rfl

theorem endpoints_exact {s : Settings} (h : s.validate = .ok ()) : s.EndpointsExact where
  joined := s.joined_endpoint
  padded := s.endpoint_pad
  absolute_iff := Settings.absolute_endpoint_iff h
  messages c hc e body := by
    obtain rfl := Client.settings_of_ofSettings hc
    exact Settings.absolute_endpoint_iff h _

/-- Slashes at the end of the base URL and at the start of the path are no part of the endpoint. -/
theorem endpoints_exact_slashes :
    ({ baseUrl := "https://reports.example.com/v1//" } : Settings).validate = .ok () ∧
    ({ baseUrl := "https://reports.example.com/v1//" } : Settings).EndpointsExact ∧
    ({ baseUrl := "https://reports.example.com/v1//" } : Settings).endpoint "//api/chart-data" =
      "https://reports.example.com/v1/api/chart-data" :=
  ⟨by decide +kernel, endpoints_exact (by decide +kernel), by decide +kernel⟩

/-- A bare base URL is valid, but one slash of its scheme is missing from its endpoints. -/
theorem bare_scheme_lost : ({ baseUrl := "http://" } : Settings).validate = .ok () ∧
    ({ baseUrl := "http://" } : Settings).endpoint "/api/chart-data" = "http:/api/chart-data" ∧
    ¬ Absolute (({ baseUrl := "http://" } : Settings).endpoint "/api/chart-data") :=
  ⟨by decide +kernel, by decide +kernel,
    Settings.not_absolute_endpoint ⟨"http://", by decide, 0, rfl⟩ _⟩

end Backend

/-! ## Arguments and variables -/

namespace Command.Invocation

open Backend

/-- The base URL of an invocation ends in no slash, wherever it comes from. -/
theorem exists_settings_baseUrl (i : Invocation) (lookup : String → Option String) :
    ∃ given, (i.settings lookup).baseUrl = Text.dropTrailing '/' given := by
  unfold settings
  cases i.backend with
  | some url => exact ⟨url, rfl⟩
  | none => exact ⟨_, rfl⟩

/-- An invocation either fails for its settings or asks URLs that begin with a scheme. -/
theorem absolute_endpoint (i : Invocation) (lookup : String → Option String)
    (h : (i.settings lookup).validate = .ok ()) (path : String) :
    Absolute ((i.settings lookup).endpoint path) := by
  refine (Settings.absolute_endpoint_iff h path).2 fun hbare => ?_
  obtain ⟨given, hgiven⟩ := i.exists_settings_baseUrl lookup
  rw [hgiven] at hbare
  exact (Text.isStem_dropTrailing '/' given).last hbare.getLast?

end Command.Invocation

end CrossFilter
