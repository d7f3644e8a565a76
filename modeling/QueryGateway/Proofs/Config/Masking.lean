import QueryGateway.Config.Settings
import QueryGateway.Proofs.Text.Splitting

/-!
# Masked addresses

What a masked address shows of the password in it. The user information ends before the
first slash, so a password with a slash ends too early: its end is taken for a part of the
host and the path and is shown, and without an at sign before the slash all of it is.
-/

namespace QueryGateway

namespace DatabaseSettings

/-- What an address with a scheme is masked to: the part before the first slash holds the
user and the host. -/
theorem maskUrl_of_authority {scheme authority tail : List Char} (hscheme : ':' ∉ scheme)
    (hauthority : '/' ∉ authority) (htail : ∀ c ∈ tail.head?, c = '/') :
    maskUrl (scheme ++ "://".toList ++ (authority ++ tail)) =
      match Text.cutLast '@' authority with
      | none => scheme ++ "://".toList ++ (authority ++ tail)
      | some (user, host) =>
        scheme ++ "://".toList ++ user.takeWhile (· != ':') ++ ':' :: mask ++ '@' :: host ++
          tail := by
  have hcut : Text.cutText "://".toList (scheme ++ "://".toList ++ (authority ++ tail)) =
      some (scheme, authority ++ tail) := Text.cutText_append hscheme _
  have hrun : ∀ c ∈ authority, (c != '/') = true := by
    intro c hc
    simp only [bne_iff_ne]
    rintro rfl
    exact hauthority hc
  have htake : (authority ++ tail).takeWhile (· != '/') = authority :=
    Text.takeWhile_run hrun fun c hc => by simp [htail c hc]
  rw [maskUrl, hcut]
  cases hlast : Text.cutLast '@' authority with
  | none => simp [htake, hlast]
  | some parts => simp [htake, hlast]

end DatabaseSettings

/-- The parts of an address with a user and a password, apart from the password. -/
structure Login where
  scheme : List Char
  user : List Char
  host : List Char
  tail : List Char
  scheme_plain : ':' ∉ scheme
  user_plain : ':' ∉ user ∧ '@' ∉ user ∧ '/' ∉ user
  host_plain : '@' ∉ host ∧ '/' ∉ host
  tail_plain : (∀ c ∈ tail.head?, c = '/') ∧ '@' ∉ tail

namespace Login

open DatabaseSettings

/-- The address with a password. -/
def url (l : Login) (password : List Char) : List Char :=
  l.scheme ++ "://".toList ++ l.user ++ ':' :: password ++ '@' :: l.host ++ l.tail

/-- The address with a password as settings show it. -/
def shownUrl (l : Login) (s : DatabaseSettings) (password : List Char) : String :=
  { s with url := String.ofList (l.url password) }.maskedUrl

/-- What stands in a masked address instead of a password. -/
def shownPassword (password : List Char) : List Char :=
  match Text.cut '/' password with
  | none => mask
  | some (front, back) =>
    match Text.cutLast '@' front with
    | none => password
    | some (_, rest) => mask ++ '@' :: rest ++ '/' :: back

variable (l : Login)

/-- An address determines its password. -/
theorem url_injective {p q : List Char} : l.url p = l.url q ↔ p = q := by
  simp [url]

/-- The name of the user is what stands before the first colon. -/
theorem takeWhile_user (rest : List Char) :
    (l.user ++ ':' :: rest).takeWhile (· != ':') = l.user := by
  apply Text.takeWhile_run
  · intro c hc
    simp only [bne_iff_ne]
    rintro rfl
    exact l.user_plain.1 hc
  · rintro c ⟨⟩
    rfl

/-- A masked address is the address with something in place of the password. -/
theorem maskUrl_url (password : List Char) :
    maskUrl (l.url password) = l.url (shownPassword password) := by
  obtain ⟨-, huserAt, huserSlash⟩ := l.user_plain
  rw [shownPassword]
  cases hcut : Text.cut '/' password with
  | none =>
    have hauthority : '/' ∉ l.user ++ ':' :: password ++ '@' :: l.host := by
      simp [huserSlash, Text.notMem_of_cut hcut, l.host_plain.2]
    have hlast : Text.cutLast '@' (l.user ++ ':' :: password ++ '@' :: l.host) =
        some (l.user ++ ':' :: password, l.host) := Text.cutLast_append_cons l.host_plain.1 _
    have hmask := maskUrl_of_authority l.scheme_plain hauthority l.tail_plain.1
    rw [hlast] at hmask
    simp only [takeWhile_user] at hmask
    simpa [url] using hmask
  | some parts =>
    obtain ⟨front, back⟩ := parts
    have hfront := Text.notMem_before_of_cut hcut
    obtain rfl := Text.eq_of_cut hcut
    have hauthority : '/' ∉ l.user ++ ':' :: front := by simp [huserSlash, hfront]
    have htail : ∀ c ∈ ('/' :: back ++ '@' :: l.host ++ l.tail).head?, c = '/' := by
      rintro c ⟨⟩
      rfl
    have hmask := maskUrl_of_authority l.scheme_plain hauthority htail
    cases hlast : Text.cutLast '@' front with
    | none =>
      have hnone : Text.cutLast '@' (l.user ++ ':' :: front) = none := by
        apply Text.cutLast_of_notMem
        simp [huserAt, Text.notMem_of_cutLast hlast]
      rw [hnone] at hmask
      simpa [url, hlast] using hmask
    | some parts =>
      obtain ⟨before, rest⟩ := parts
      have hrest := (Text.eq_of_cutLast hlast).2
      have hsome : Text.cutLast '@' (l.user ++ ':' :: front) =
          some (l.user ++ ':' :: before, rest) := by
        rw [(Text.eq_of_cutLast hlast).1]
        simpa using Text.cutLast_append_cons hrest (l.user ++ ':' :: before)
      rw [hsome] at hmask
      simp only [takeWhile_user] at hmask
      simpa [url, hlast] using hmask

/-- Nothing of a password is shown exactly if it has no slash. -/
theorem shownPassword_eq_mask_iff (password : List Char) :
    shownPassword password = mask ↔ '/' ∉ password := by
  have hmask : '/' ∉ mask := by decide
  rw [shownPassword]
  cases hcut : Text.cut '/' password with
  | none => simp [Text.notMem_of_cut hcut]
  | some parts =>
    obtain ⟨front, back⟩ := parts
    have hmem : '/' ∈ password := by simp [Text.eq_of_cut hcut]
    simp only [hmem, not_true, iff_false]
    cases Text.cutLast '@' front with
    | none =>
      rintro rfl
      exact hmask hmem
    | some parts =>
      intro h
      simp only at h
      rw [← h] at hmask
      simp at hmask

/-- **When an address is masked.** The masked address shows the mask in place of the password
exactly if the password has no slash. So the addresses with two passwords are masked to the
same text if neither has a slash, and a password without one is told apart from every
password with one. -/
theorem shownUrl_eq_iff (s : DatabaseSettings) :
    (∀ p, l.shownUrl s p = String.ofList (l.url mask) ↔ '/' ∉ p) ∧
      ∀ p q, '/' ∉ p → (l.shownUrl s p = l.shownUrl s q ↔ '/' ∉ q) := by
  have hshown (p : List Char) : l.shownUrl s p = String.ofList (l.url (shownPassword p)) := by
    rw [shownUrl, maskedUrl, String.toList_ofList, maskUrl_url]
  have hmasked (p : List Char) : l.shownUrl s p = String.ofList (l.url mask) ↔ '/' ∉ p := by
    rw [hshown, String.ofList_inj, url_injective, shownPassword_eq_mask_iff]
  refine ⟨hmasked, fun p q hp => ?_⟩
  rw [(hmasked p).mpr hp, eq_comm]
  exact hmasked q

/-- Passwords with colons and at signs. -/
theorem shownUrl_eq_iff_plain :
    let l : Login := ⟨"postgres".toList, "app".toList, "db:5432".toList, "//main".toList,
      by decide, by decide, by decide, ⟨by rintro c ⟨⟩; rfl, by decide⟩⟩
    let s : DatabaseSettings := ⟨"", 1, 1, 0, 0, false, true⟩
    '/' ∉ "p@:ss".toList ∧ '/' ∉ "****@db".toList ∧
      l.shownUrl s "p@:ss".toList = "postgres://app:****@db:5432//main" ∧
      l.shownUrl s "p@:ss".toList = l.shownUrl s "****@db".toList := by
  intro l s
  have hp : '/' ∉ "p@:ss".toList := by decide
  have hq : '/' ∉ "****@db".toList := by decide
  obtain ⟨hmasked, hsame⟩ := shownUrl_eq_iff l s
  refine ⟨hp, hq, ?_, (hsame _ _ hp).mpr hq⟩
  rw [(hmasked _).mpr hp]
  decide

/-- A password with a slash is shown, and so settings with two such passwords are told apart. -/
theorem shownUrl_slash :
    let l : Login := ⟨"postgres".toList, "app".toList, "db".toList, "/main".toList,
      by decide, by decide, by decide, ⟨by rintro c ⟨⟩; rfl, by decide⟩⟩
    let s : DatabaseSettings := ⟨"", 1, 1, 0, 0, false, true⟩
    l.shownUrl s "pa/ss".toList = "postgres://app:pa/ss@db/main" ∧
      l.shownUrl s "p@q/ss".toList = "postgres://app:****@q/ss@db/main" ∧
      l.shownUrl s "pa/ss".toList ≠ l.shownUrl s "word".toList := by
  decide +kernel

end Login

end QueryGateway
