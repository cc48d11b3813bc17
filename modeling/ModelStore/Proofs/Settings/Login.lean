import ModelStore.Proofs.Text.Path
import ModelStore.Proofs.Text.Percent
import ModelStore.Settings.Basic

/-!
The login in a generated address. It stands between the protocol and the first at sign, and of the
characters that part an address it holds none but the colon between user and password. So the user
and the password are read back as they were set, and settings with the same address have the same
login.
-/
namespace ModelStore.Settings

open Text

variable {s s' : Settings} {user user' password login rest : String} {c : Char}

/-- The settings name a user, for one of the two protocols. -/
structure NamesUser (s : Settings) (user : String) : Prop where
  protocol : s.protocol = "mongodb" ∨ s.protocol = seedlistProtocol
  username : s.username = some user
  set : user ≠ ""

def loginText (user password : String) : String :=
  if password = "" then percentEncode user else percentEncode user ++ ":" ++ percentEncode password

def place (s : Settings) : String :=
  let port :=
    match s.port with
    | none | some 0 => 27017
    | some n => n
  (nonEmpty? s.host).getD "127.0.0.1" ++
    (if s.protocol = seedlistProtocol then "" else ":" ++ toString port) ++ "/" ++
    (nonEmpty? s.database).getD "test"

def loginParts (login : String) : List (Option String) :=
  (cutAt ':' login.toList).map fun part => percentDecode? (String.ofList part)

/-- A login stands in the address of the settings, and nothing but the login and its at sign goes
when the user is taken away. -/
structure ShowsLogin (s : Settings) (user password login rest : String) : Prop where
  address : s.generatedUrl = s.protocol ++ "://" ++ login ++ "@" ++ rest
  first : '@' ∉ (s.protocol ++ "://" ++ login).toList
  unmarked : ∀ c ∈ ['/', '?', '#', '[', ']'], c ∉ login.toList
  colons : login.toList.count ':' = if password = "" then 0 else 1
  parts : loginParts login = if password = "" then [some user] else [some user, some password]
  place : ({ s with username := none } : Settings).generatedUrl = s.protocol ++ "://" ++ rest

/-- Only an empty text counts like one that is not set. -/
theorem nonEmpty?_eq (text : Option String) :
    nonEmpty? text = if text.getD "" = "" then none else some (text.getD "") := by
  unfold nonEmpty?
  split
  · rfl
  · rename_i hset
    cases text with
    | none => rfl
    | some text => exact (if_neg fun hempty => hset (congrArg some hempty)).symm

theorem credentials_eq (h : NamesUser s user) :
    s.credentials = loginText user (s.password.getD "") ++ "@" := by
  have huser : nonEmpty? s.username = some user := by
    rw [h.username, nonEmpty?_eq]
    exact if_neg h.set
  by_cases hpassword : s.password.getD "" = ""
  · rw [credentials, huser, nonEmpty?_eq, loginText, if_pos hpassword, if_pos hpassword]
  · rw [credentials, huser, nonEmpty?_eq, loginText, if_neg hpassword, if_neg hpassword]

theorem generatedUrl_eq (h : s.protocol = "mongodb" ∨ s.protocol = seedlistProtocol) :
    s.generatedUrl = s.protocol ++ "://" ++ s.credentials ++ s.place := by
  have hset : s.protocol ≠ "" := by
    rcases h with h | h <;> rw [h] <;> decide
  have hport : ∀ front login host port database : String,
      front ++ "://" ++ login ++ host ++ ":" ++ port ++ "/" ++ database =
        front ++ "://" ++ login ++ (host ++ (":" ++ port) ++ "/" ++ database) := by
    simp only [String.append_assoc, implies_true]
  simp only [generatedUrl, if_neg hset, place]
  split
  · simp only [String.append_assoc, String.append_empty]
  · exact hport _ _ _ _ _

theorem not_mem_percentEncode_of_mark (text : String)
    (h : c ∈ ['@', ':', '/', '?', '#', '[', ']']) : c ∉ (percentEncode text).toList := by
  have hmarks : ['@', ':', '/', '?', '#', '[', ']'].all
      (fun c => !isUnreserved c && c ≠ '+' && c ≠ '%') = true := by decide
  have hc := List.all_eq_true.mp hmarks c h
  simp only [Bool.and_eq_true, Bool.not_eq_true', decide_eq_true_eq] at hc
  exact not_mem_percentEncode text hc.1.1 hc.1.2 hc.2

/-- The only mark in a login is the colon. -/
theorem not_mem_loginText (user password : String) (h : c ∈ ['@', '/', '?', '#', '[', ']']) :
    c ∉ (loginText user password).toList := by
  have hmark : c ∈ ['@', ':', '/', '?', '#', '[', ']'] := by
    rcases List.mem_cons.mp h with rfl | h
    · exact List.mem_cons_self
    · exact List.mem_cons_of_mem _ (List.mem_cons_of_mem _ h)
  have hcolon : c ≠ ':' := by
    rintro rfl
    exact absurd h (by decide)
  have hparts := fun text => not_mem_percentEncode_of_mark text hmark
  rw [loginText]
  split
  · exact hparts user
  · simp [hparts, hcolon]

theorem cutAt_loginText (user password : String) : cutAt ':' (loginText user password).toList =
    if password = "" then [(percentEncode user).toList]
    else [(percentEncode user).toList, (percentEncode password).toList] := by
  have hcolon := fun text => not_mem_percentEncode_of_mark (c := ':') text (by decide)
  rw [loginText]
  split
  · exact cutAt_of_not_mem (hcolon user)
  · have hjoined : (percentEncode user ++ ":" ++ percentEncode password).toList =
        (percentEncode user).toList ++ ':' :: (percentEncode password).toList := by
      simp
    rw [hjoined, cutAt_append _ (hcolon user), cutAt_of_not_mem (hcolon password)]

theorem count_loginText (user password : String) :
    (loginText user password).toList.count ':' = if password = "" then 0 else 1 := by
  have hcolon := fun text => List.count_eq_zero_of_not_mem
    (not_mem_percentEncode_of_mark (c := ':') text (by decide))
  rw [loginText]
  split
  · exact hcolon user
  · simp [hcolon]

theorem loginParts_loginText (user password : String) : loginParts (loginText user password) =
    if password = "" then [some user] else [some user, some password] := by
  rw [loginParts, cutAt_loginText]
  split
  · simp [percentDecode?_percentEncode]
  · simp [percentDecode?_percentEncode]

theorem showsLogin (h : NamesUser s user) :
    ShowsLogin s user (s.password.getD "") (loginText user (s.password.getD "")) s.place where
  address := by
    rw [generatedUrl_eq h.protocol, credentials_eq h]
    simp only [String.append_assoc]
  first := by
    have hlogin := not_mem_loginText (c := '@') user (s.password.getD "") (by decide)
    rcases h.protocol with hprotocol | hprotocol <;> simp [hprotocol, hlogin, seedlistProtocol]
  unmarked c hc := not_mem_loginText user _ (List.mem_cons_of_mem _ hc)
  colons := count_loginText user _
  parts := loginParts_loginText user _
  place := by
    have hurl := generatedUrl_eq (s := { s with username := none }) h.protocol
    have hnone : ({ s with username := none } : Settings).credentials = "" := rfl
    rw [hurl, hnone, String.append_empty]
    rfl

theorem NamesUser.not_mem_protocol (h : NamesUser s user) : ':' ∉ s.protocol.toList := by
  rcases h.protocol with hprotocol | hprotocol <;> rw [hprotocol] <;> decide

/-- The same address has the same text in front of its first at sign, and the same login behind the
first colon of that. -/
theorem ShowsLogin.unique {password' login' rest' : String} (hs : NamesUser s user)
    (hs' : NamesUser s' user') (h : ShowsLogin s user password login rest)
    (h' : ShowsLogin s' user' password' login' rest') (hsame : s.generatedUrl = s'.generatedUrl) :
    login = login' := by
  -- neither protocol nor login holds an at sign, and no protocol a colon
  have hurls := congrArg String.toList hsame
  have hcolon := hs.not_mem_protocol
  have hcolon' := hs'.not_mem_protocol
  have hat : (s.protocol ++ "://" ++ login).toList ++ '@' :: rest.toList =
      (s'.protocol ++ "://" ++ login').toList ++ '@' :: rest'.toList := by
    simpa [h.address, h'.address] using hurls
  obtain ⟨hfront, -⟩ := append_separator_inj h.first h'.first hat
  have hprotocols : s.protocol.toList ++ ':' :: ("//" ++ login).toList =
      s'.protocol.toList ++ ':' :: ("//" ++ login').toList := by
    simpa using hfront
  obtain ⟨-, hlogins⟩ := append_separator_inj hcolon hcolon' hprotocols
  exact String.toList_injective (by simpa using hlogins)

/-- A login read as its parts tells the user and the password. -/
theorem eq_of_parts {password' : String}
    (h : (if password = "" then [some user] else [some user, some password]) =
      if password' = "" then [some user'] else [some user', some password']) :
    user = user' ∧ password = password' := by
  by_cases hempty : password = "" <;> by_cases hempty' : password' = "" <;>
    simp_all

/-- The user and the password come through a generated address: its first at sign ends a login that
is parted by one colon into the two, or is the user alone where the password is empty. So settings
with the same address have the same user and the same password. -/
theorem login_survives (h : NamesUser s user) :
    (∃ login rest, ShowsLogin s user (s.password.getD "") login rest) ∧
      ∀ s' user', NamesUser s' user' → s.generatedUrl = s'.generatedUrl →
        user = user' ∧ s.password.getD "" = s'.password.getD "" := by
  have hshown := showsLogin h
  refine ⟨⟨_, _, hshown⟩, ?_⟩
  intro s' user' h' hsame
  have hshown' := showsLogin h'
  have hlogin := hshown.unique h h' hshown' hsame
  have hparts := hshown.parts
  rw [hlogin, hshown'.parts] at hparts
  exact eq_of_parts hparts.symm

/-- A user with a colon is not mistaken for another with a longer password. -/
theorem login_survives_colon :
    NamesUser { username := some "a:b", password := some "c@d" } "a:b" ∧
      (∃ login rest, ShowsLogin { username := some "a:b", password := some "c@d" } "a:b" "c@d"
        login rest) ∧
      ({ username := some "a:b", password := some "c@d" } : Settings).generatedUrl ≠
        ({ username := some "a", password := some "b:c@d" } : Settings).generatedUrl := by
  have hlong : NamesUser { username := some "a:b", password := some "c@d" } "a:b" :=
    ⟨Or.inl rfl, rfl, by decide⟩
  have hshort : NamesUser { username := some "a", password := some "b:c@d" } "a" :=
    ⟨Or.inl rfl, rfl, by decide⟩
  obtain ⟨hshown, hsame⟩ := login_survives hlong
  refine ⟨hlong, hshown, fun hurls => ?_⟩
  exact absurd (hsame _ _ hshort hurls).1 (by decide)

end ModelStore.Settings
