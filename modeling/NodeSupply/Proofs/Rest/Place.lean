import NodeSupply.Proofs.Rest.Path

/-!
# Addresses below a place

A place is the address of a directory: text that is an address with a slash behind it, and has
neither a query nor a fragment.  More text behind the slash does not change the server, and tells
how the path goes on from the segments of the place.

## Main definitions

* `Url.IsPlace` : a place, and its address with the slash.
* `Url.below` : the address that text behind the slash of a place leads to.
* `Url.server` : the server that an address leads to.

## Main statements

* `Url.IsPlace.parse?_append` : the address of text below a place.
* `Url.IsPlace.append` : places below a place.
-/

namespace NodeSupply.Url

/-! ### Addresses in parts -/

/-- Whether a character belongs to the server. -/
def inServer (c : Char) : Bool := !isSlash c && c != '?' && c != '#'

/-- The server of a scheme that text stands for, as an address that has nothing behind it. -/
def server? (scheme : Scheme) (cs : List Char) : Option Url := do
  let (user, server) := cutLast '@' cs
  let (host, port) := cutPort false server
  let (user, password) := credentials (user.getD [])
  return {
    scheme
    user
    password
    host := ← Host.parse? host
    port := ← port? scheme (port.getD [])
    path := []
    query := none
    fragment := none }

/-- An address with another path, and with the query and the fragment in some text. -/
def withParts (u : Url) (path : List String) (cs : List Char) : Url :=
  { u with path, query := queryOf cs, fragment := fragmentOf cs }

/-- The address that text from the server on stands for. -/
def fromServer? (scheme : Scheme) (cs : List Char) : Option Url :=
  let address := cs.dropWhile inServer
  (server? scheme (cs.takeWhile inServer)).map fun u =>
    u.withParts (pathOf ((pathPart address).drop 1)) address

theorem parse?_eq (s : String) : parse? s =
    (cutScheme? (tidy s.toList)).bind fun x => fromServer? x.1 (x.2.dropWhile isSlash) := by
  unfold parse?
  refine congrArg (Option.bind _) (funext fun ⟨scheme, rest⟩ => ?_)
  simp only [fromServer?, server?, Option.bind_eq_bind, Option.map_bind, Function.comp_def,
    Option.pure_def, Option.map_some]
  rfl

theorem server?_nil (scheme : Scheme) : server? scheme [] = none := by
  have hhost : Host.parse? [] = none := by decide +kernel
  change (Host.parse? []).bind _ = none
  rw [hhost, Option.bind_none]

theorem fromServer?_nil (scheme : Scheme) : fromServer? scheme [] = none := by
  rw [fromServer?, List.takeWhile_nil, server?_nil, Option.map_none]

/-! ### Places -/

theorem cutScheme?_append {xs rest : List Char} {scheme : Scheme}
    (h : cutScheme? (xs ++ ['/']) = some (scheme, rest)) :
    ∃ start, ∀ ys, cutScheme? (xs ++ '/' :: ys) = some (scheme, start ++ '/' :: ys) := by
  by_cases hcolon : ':' ∈ xs
  · obtain ⟨name, start, rfl, habsent⟩ := List.eq_append_cons_of_mem hcolon
    have hcut : ∀ ys, cut ':' (name ++ ':' :: start ++ '/' :: ys) =
        (name, some (start ++ '/' :: ys)) := fun ys => by
      rw [List.append_assoc, cut_append habsent, List.cons_append, cut_cons_self, List.append_nil]
    refine ⟨start, fun ys => ?_⟩
    simp only [cutScheme?, hcut, List.findSome?] at h ⊢
    split_ifs at h ⊢ <;> simp_all
  · have habsent : ':' ∉ xs ++ ['/'] := by simp [hcolon]
    rw [cutScheme?, cut_of_not_mem habsent] at h
    cases h

/-- The path of text in which a slash occurs. -/
theorem exists_pathOf_append (xs : List Char) : ∃ above, ∀ ys,
    pathOf ((xs ++ '/' :: ys).drop 1) = resolveDots above (segmentsOf ys) := by
  cases xs with
  | nil => exact ⟨[], fun ys => rfl⟩
  | cons c xs =>
    refine ⟨settle [] (segmentsOf xs), fun ys => ?_⟩
    rw [List.cons_append, List.drop_one, List.tail_cons, pathOf_eq, segmentsOf_append,
      resolveDots_append (segmentsOf_ne_nil ys)]

/-- An address with more text behind its last slash. -/
def below (u : Url) (cs : List Char) : Url :=
  u.withParts (resolveDots u.path.dropLast (segmentsOf (pathPart cs))) cs

/-- The server that an address leads to. -/
def server (u : Url) : Scheme × Host × Option Nat := (u.scheme, u.host, u.port)

@[simp] theorem server_below (u : Url) (cs : List Char) : (u.below cs).server = u.server := rfl

theorem path_below (u : Url) (cs : List Char) :
    (u.below cs).path = resolveDots u.path.dropLast (segmentsOf (pathPart cs)) := rfl

/-- Text behind a slash changes neither the server nor the segments that are there. -/
theorem fromServer?_append {scheme : Scheme} {xs : List Char} {u : Url}
    (h : fromServer? scheme (xs ++ ['/']) = some u) (query : u.query = none)
    (fragment : u.fragment = none) (ys : List Char) :
    fromServer? scheme (xs ++ '/' :: ys) = some (u.below ys) := by
  have hserver : ∀ ys, fromServer? scheme (xs ++ '/' :: ys) =
      (server? scheme (xs.takeWhile inServer)).map fun u =>
        u.withParts (pathOf ((pathPart (xs.dropWhile inServer ++ '/' :: ys)).drop 1))
          (xs.dropWhile inServer ++ '/' :: ys) := fun ys => by
    rw [fromServer?, takeWhile_append_cons (by decide), dropWhile_append_cons (by decide)]
  rw [hserver] at h ⊢
  generalize xs.dropWhile inServer = start at h ⊢
  obtain ⟨v, hv, rfl⟩ := Option.map_eq_some_iff.1 h
  have unmarked : Unmarked (start ++ ['/']) := unmarked_iff.2 ⟨query, fragment⟩
  obtain ⟨above, habove⟩ := exists_pathOf_append start
  have hbase : pathOf ((pathPart (start ++ ['/'])).drop 1) = above ++ [""] := by
    rw [pathPart_eq_self unmarked, habove]
    rfl
  have hsplit : start ++ '/' :: ys = start ++ ['/'] ++ ys := by simp
  have hpath : pathOf ((pathPart (start ++ '/' :: ys)).drop 1) =
      resolveDots above (segmentsOf (pathPart ys)) := by
    rw [hsplit, pathPart_append unmarked, List.append_assoc]
    exact habove _
  rw [hv, Option.map_some, hpath, below, withParts, withParts, withParts, hsplit,
    queryOf_append unmarked, fragmentOf_append unmarked]
  simp only [hbase, List.dropLast_concat]

/-- A place, and its address with the slash. -/
structure IsPlace (place : String) (base : Url) : Prop where
  parsed : parse? (place ++ "/") = some base
  query : base.query = none
  fragment : base.fragment = none

/-- The address of text below a place. -/
theorem IsPlace.parse?_append {place : String} {base : Url} (h : IsPlace place base)
    (rest : String) :
    parse? (place ++ "/" ++ rest) = some (base.below (tidyEnd rest.toList)) := by
  have htidy : ∀ rest : String, tidy (place ++ "/" ++ rest).toList =
      (place.toList.dropWhile isEnd).filter isKept ++ '/' :: tidyEnd rest.toList := fun rest => by
    rw [← tidy_append]
    simp
  obtain ⟨⟨scheme, start'⟩, hscheme, hserver⟩ := Option.bind_eq_some_iff.1
    ((parse?_eq _).symm.trans h.parsed)
  have hnone := htidy ""
  rw [String.append_empty] at hnone
  rw [hnone] at hscheme
  obtain ⟨start, hstart⟩ := cutScheme?_append hscheme
  obtain rfl : start' = start ++ ['/'] :=
    congrArg Prod.snd (Option.some.inj (hscheme.symm.trans (hstart [])))
  rw [parse?_eq, htidy, hstart, Option.bind_some]
  dsimp only at hserver ⊢
  -- The server has a character that is no slash, as no server has no name.
  have hserved : ¬ (start.dropWhile isSlash).isEmpty := fun hempty => by
    rw [List.dropWhile_append, if_pos hempty] at hserver
    cases (fromServer?_nil scheme).symm.trans hserver
  rw [List.dropWhile_append, if_neg hserved] at hserver ⊢
  exact fromServer?_append hserver h.query h.fragment _

theorem IsPlace.append {place : String} {base : Url} (h : IsPlace place base) {name : String}
    (letters : IsName name) : IsPlace (place ++ "/" ++ name)
      { base with path := base.path.dropLast ++ [name, ""] } := by
  have htidy : tidyEnd (name ++ "/").toList = name.toList ++ ['/'] := by
    rw [String.toList_append, show "/".toList = ['/'] from rfl, tidyEnd_append,
      List.filter_eq_self.2 letters.isSegment.kept]
    rfl
  have hslash : Unmarked (name.toList ++ ['/']) := letters.isSegment.unmarked.append_slash
  have hpath : resolveDots base.path.dropLast (segmentsOf (name.toList ++ ['/'])) =
      base.path.dropLast ++ [name, ""] := by
    rw [segmentsOf_append, letters.segmentsOf_eq, segmentsOf_nil, List.singleton_append]
    have hempty : isDots "" = false := by decide
    exact resolveDots_of_plain (by simp [letters.isDots_eq_false, hempty]) _
  obtain ⟨hquery, hfragment⟩ := unmarked_iff.1 hslash
  have hparts := h.parse?_append (name ++ "/")
  rw [htidy, below, withParts, pathPart_eq_self hslash, hpath, hquery, hfragment,
    ← String.append_assoc] at hparts
  exact ⟨by rw [hparts, h.query, h.fragment], h.query, h.fragment⟩

end NodeSupply.Url
