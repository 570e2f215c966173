/-
# The server's words

A refusal is told in the server's own words. What words a value holds is said here without any
joining: those of a list are those of its entries, one after the other, and those of an object
are those of the preferred member that has any. The message of a refusal is all words of the
preferred member of its body, joined once. So it does not matter how lists are nested, entries
without words leave nothing behind, and nothing after the chosen member counts.
-/

import Mathlib
import UtilityBilling.Api.Refusal
import UtilityBilling.Proofs.Json.Members
import UtilityBilling.Proofs.Text.Splitting

namespace UtilityBilling.Api

open UtilityBilling.Json (Value InOrder)
open UtilityBilling.Text

/-- The first words of several that are any. -/
def firstWords (choices : List (List String)) : List String :=
  (choices.find? fun words => !words.isEmpty).getD []

mutual

/-- The words in a value, in order. -/
def wordsIn : Value → List String
  | .text text => if trim text = "" then [] else [trim text]
  | .list entries => wordsInEach entries
  | .object members =>
    let held := wordsOfMembers members
    firstWords (["msg", "message", "detail"].map fun key => (held.lookup key).getD [])
  | .null | .bool _ | .number _ => []

/-- The words in the entries of a list, in order. -/
def wordsInEach : List Value → List String
  | [] => []
  | entry :: rest => wordsIn entry ++ wordsInEach rest

/-- The members of an object, each with the words in it. -/
def wordsOfMembers : List (String × Value) → List (String × List String)
  | [] => []
  | (key, value) :: rest => (key, wordsIn value) :: wordsOfMembers rest

end

/-- The words in the member of a key, if there is one. -/
def wordsUnder (members : List (String × Value)) (key : String) : List String :=
  ((members.lookup key).map wordsIn).getD []

/-- The words that a refusal gives in its body: those of the preferred member of an object. -/
def wordsOfBody (body : String) : List String :=
  match Json.parse? body with
  | some (.object members) =>
    firstWords (["detail", "error", "message"].map (wordsUnder members))
  | _ => []

theorem wordsInEach_eq (entries : List Value) : wordsInEach entries = entries.flatMap wordsIn := by
  induction entries with
  | nil => rfl
  | cons entry rest ih => rw [wordsInEach, ih, List.flatMap_cons]

theorem wordsIn_list (entries : List Value) :
    wordsIn (.list entries) = entries.flatMap wordsIn := by
  rw [wordsIn, wordsInEach_eq]

theorem lookup_wordsOfMembers (members : List (String × Value)) (key : String) :
    (wordsOfMembers members).lookup key = (members.lookup key).map wordsIn := by
  induction members with
  | nil => rfl
  | cons first rest ih =>
      rw [wordsOfMembers, List.lookup_cons, List.lookup_cons, ih]
      cases key == first.1 <;> rfl

theorem wordsIn_object (members : List (String × Value)) :
    wordsIn (.object members) =
      firstWords (["msg", "message", "detail"].map (wordsUnder members)) := by
  simp only [wordsIn, lookup_wordsOfMembers]
  rfl

/-- Words as one text, if there are any. -/
def phrase? (words : List String) : Option String :=
  if words = [] then none else some ("; ".intercalate words)

@[simp]
theorem phrase?_nil : phrase? [] = none := rfl

theorem phrase?_of_ne_nil {words : List String} (some_ : words ≠ []) :
    phrase? words = some ("; ".intercalate words) :=
  if_neg some_

/-- The phrases of several words, joined, are the phrase of all of them. -/
theorem phrase?_filterMap (choices : List (List String)) :
    phrase? (choices.filterMap phrase?) = phrase? choices.flatten := by
  induction choices with
  | nil => rfl
  | cons words rest ih =>
      by_cases empty : words = []
      · rw [empty, List.filterMap_cons_none phrase?_nil, ih, List.flatten_cons, List.nil_append]
      · have some_ : words ++ rest.flatten ≠ [] := by simp [empty]
        rw [List.filterMap_cons_some (phrase?_of_ne_nil empty), List.flatten_cons,
          phrase?_of_ne_nil (List.cons_ne_nil _ _), phrase?_of_ne_nil some_]
        by_cases none_ : rest.flatten = []
        · have nothing : rest.filterMap phrase? = [] := by
            rw [none_, phrase?_nil] at ih
            by_contra something
            rw [phrase?_of_ne_nil something] at ih
            cases ih
          rw [nothing, none_, String.intercalate_singleton, List.append_nil]
        · have something : rest.filterMap phrase? ≠ [] := by
            intro nothing
            rw [nothing, phrase?_of_ne_nil none_] at ih
            cases ih
          rw [phrase?_of_ne_nil something, phrase?_of_ne_nil none_, Option.some.injEq] at ih
          rw [String.intercalate_cons_of_ne_nil something, ih,
            String.intercalate_append_of_ne_nil empty none_]

/-- The first phrase that can be made is that of the first words. -/
theorem findSome?_phrase (keys : List String) (wordsUnder : String → List String) :
    (keys.findSome? fun key => phrase? (wordsUnder key)) =
      phrase? (firstWords (keys.map wordsUnder)) := by
  induction keys with
  | nil => rfl
  | cons key keys ih =>
      rw [List.findSome?_cons, List.map_cons, firstWords, List.find?_cons]
      by_cases empty : wordsUnder key = []
      · rw [empty]
        exact ih
      · have filled : (wordsUnder key).isEmpty = false := by simpa using empty
        simp [phrase?_of_ne_nil empty, filled]

theorem messagesOf_eq (entries : List Value) :
    messagesOf entries = entries.filterMap messageOf := by
  induction entries with
  | nil => rfl
  | cons entry rest ih =>
      rw [messagesOf, List.filterMap_cons, ih]
      cases messageOf entry <;> rfl

/-- Among the members that have words, a member is found as among all. -/
theorem lookup_memberMessages {members : List (String × Value)} (order : InOrder members)
    (key : String) :
    (memberMessages members).lookup key = (members.lookup key).bind messageOf := by
  induction members with
  | nil => rfl
  | cons first rest ih =>
      obtain ⟨name, value⟩ := first
      obtain ⟨least, sorted⟩ := List.pairwise_cons.mp order
      rw [memberMessages, List.lookup_cons]
      cases words : messageOf value with
      | some message =>
          dsimp only
          rw [List.lookup_cons, ih sorted]
          cases key == name
          · rfl
          · exact words.symm
      | none =>
          dsimp only
          rw [ih sorted]
          cases same : key == name with
          | false => rfl
          | true =>
              -- No later member has this key, so nothing is found in place of the silent one.
              obtain rfl := eq_of_beq same
              have absent : rest.lookup key = none := by
                rw [List.lookup_eq_none_iff]
                intro member within
                simpa using (least member within).ne
              rw [absent]
              exact words.symm

/-- The message of a value is the phrase of its words. -/
theorem messageOf_eq {value : Value} (ordered : value.Ordered) :
    messageOf value = phrase? (wordsIn value) := by
  induction ordered with
  | null => simp [messageOf, wordsIn]
  | bool value => simp [messageOf, wordsIn]
  | number n => simp [messageOf, wordsIn]
  | text s =>
      rw [messageOf, nonBlank?, wordsIn]
      split
      · rfl
      · rw [phrase?_of_ne_nil (List.cons_ne_nil _ _), String.intercalate_singleton]
  | @list items each ih =>
      have parts : messagesOf items = (items.map wordsIn).filterMap phrase? := by
        rw [messagesOf_eq, List.filterMap_map]
        exact List.filterMap_congr ih
      rw [messageOf, wordsIn_list, List.flatMap_def, ← phrase?_filterMap, ← parts,
        joinWith_eq_intercalate, phrase?]
      simp only [List.isEmpty_iff]
  | @object members order each ih =>
      have under (key : String) :
          (memberMessages members).lookup key = phrase? (wordsUnder members key) := by
        rw [lookup_memberMessages order, wordsUnder]
        cases found : members.lookup key with
        | none => rfl
        | some value =>
            obtain ⟨before, after, rfl, -⟩ := List.lookup_eq_some_iff.mp found
            exact ih (key, value) (by simp)
      rw [messageOf, wordsIn_object, ← findSome?_phrase]
      simp only [under, entryKeys]

theorem serverMessage?_eq (body : String) :
    serverMessage? body = phrase? (wordsOfBody body) := by
  rw [serverMessage?, wordsOfBody]
  cases parsed : Json.parse? body with
  | none => rfl
  | some value =>
      have ordered := Json.ordered_of_parse? parsed
      cases ordered with
      | @object members order each =>
          dsimp only
          rw [← findSome?_phrase]
          congr 1
          funext key
          rw [Value.get?, wordsUnder]
          cases found : members.lookup key with
          | none => rfl
          | some value =>
              obtain ⟨before, after, rfl, -⟩ := List.lookup_eq_some_iff.mp found
              exact messageOf_eq (each (key, value) (by simp))
      | _ => rfl

/-- Two objects have the same up to a member that has words, in an order of preference. -/
def AgreeUpTo (same : Value → Value → Prop) (keys : List String)
    (first second : List (String × Value)) : Prop :=
  ∃ earlier chosen later, keys = earlier ++ chosen :: later ∧ wordsUnder first chosen ≠ [] ∧
    ∀ key ∈ earlier ++ [chosen], Option.Rel same (first.lookup key) (second.lookup key)

/-- Two values tell the same: they differ in how lists are nested, in entries without words,
and in what stands behind the chosen member of an object. -/
inductive Retold : Value → Value → Prop where
  | refl (value : Value) : Retold value value
  | symm {first second : Value} (told : Retold first second) : Retold second first
  | trans {first second third : Value} (told : Retold first second)
      (again : Retold second third) : Retold first third
  /-- A list of one entry tells what the entry tells. -/
  | single (value : Value) : Retold (.list [value]) value
  /-- A list within a list may be opened. -/
  | opened (before inner after : List Value) :
      Retold (.list (before ++ .list inner :: after)) (.list (before ++ inner ++ after))
  /-- An entry without words may be dropped. -/
  | dropped (before after : List Value) {silent : Value} (none_ : wordsIn silent = []) :
      Retold (.list (before ++ silent :: after)) (.list (before ++ after))
  | entry (before after : List Value) {first second : Value} (told : Retold first second) :
      Retold (.list (before ++ first :: after)) (.list (before ++ second :: after))
  | member (before after : List (String × Value)) (key : String) {first second : Value}
      (told : Retold first second) :
      Retold (.object (before ++ (key, first) :: after))
        (.object (before ++ (key, second) :: after))
  /-- What is preferred less than the chosen member does not count. -/
  | later {first second : List (String × Value)}
      (agree : AgreeUpTo (· = ·) ["msg", "message", "detail"] first second) :
      Retold (.object first) (.object second)

/-- There are words if one of the choices has any. -/
theorem firstWords_ne_nil {choices : List (List String)} {words : List String}
    (within : words ∈ choices) (some_ : words ≠ []) : firstWords choices ≠ [] := by
  rw [firstWords]
  cases found : choices.find? fun words => !words.isEmpty with
  | none =>
      have empty := List.find?_eq_none.mp found words within
      simp [some_] at empty
  | some chosen =>
      have filled := List.find?_some found
      simpa using filled

/-- The first words are those of a choice that has any, or of one before it. -/
theorem firstWords_eq {first second : String → List String} {earlier later : List String}
    {chosen : String} (some_ : first chosen ≠ [])
    (same : ∀ key ∈ earlier ++ [chosen], first key = second key) :
    firstWords ((earlier ++ chosen :: later).map first) =
      firstWords ((earlier ++ chosen :: later).map second) := by
  induction earlier with
  | nil =>
      have here := same chosen (by simp)
      have filled : (first chosen).isEmpty = false := by simpa using some_
      rw [List.nil_append, List.map_cons, List.map_cons, firstWords, firstWords, ← here,
        List.find?_cons_of_pos (by simp [filled]), List.find?_cons_of_pos (by simp [filled])]
  | cons key earlier ih =>
      have here := same key (by simp)
      have rest := ih fun other within => same other (List.mem_cons_of_mem _ within)
      rw [firstWords, firstWords] at rest
      rw [List.cons_append, List.map_cons, List.map_cons, firstWords, firstWords, ← here,
        List.find?_cons, List.find?_cons]
      cases !(first key).isEmpty
      · exact rest
      · rfl

theorem AgreeUpTo.firstWords_eq {same : Value → Value → Prop} {keys : List String}
    {first second : List (String × Value)} (agree : AgreeUpTo same keys first second)
    (told : ∀ a b, same a b → wordsIn a = wordsIn b) :
    firstWords (keys.map (wordsUnder first)) = firstWords (keys.map (wordsUnder second)) := by
  obtain ⟨earlier, chosen, later, rfl, some_, agreed⟩ := agree
  refine Api.firstWords_eq some_ fun key within => ?_
  have related := agreed key within
  rw [wordsUnder, wordsUnder]
  generalize first.lookup key = held at related
  generalize second.lookup key = heldOther at related
  cases related with
  | none => rfl
  | some related => exact told _ _ related

/-- Values that tell the same hold the same words. -/
theorem Retold.wordsIn_eq {first second : Value} (told : Retold first second) :
    wordsIn first = wordsIn second := by
  induction told with
  | refl value => rfl
  | symm _ ih => exact ih.symm
  | trans _ _ ih again => exact ih.trans again
  | single value => rw [wordsIn_list, List.flatMap_singleton]
  | opened before inner after => simp [wordsIn_list]
  | dropped before after none_ => simp [wordsIn_list, none_]
  | entry before after _ ih => simp [wordsIn_list, ih]
  | @member before after key first second _ ih =>
      rw [wordsIn_object, wordsIn_object]
      congr 2
      funext name
      rw [wordsUnder, wordsUnder, List.lookup_append, List.lookup_append, List.lookup_cons,
        List.lookup_cons]
      cases before.lookup name with
      | some value => rfl
      | none =>
          cases name == key
          · rfl
          · exact ih
  | later agree =>
      rw [wordsIn_object, wordsIn_object]
      exact agree.firstWords_eq fun a b same => congrArg wordsIn same

/-- The message of a refusal: all words of its body, joined; without any the trimmed body, and
if that is empty the status line. -/
theorem message_errorOfBody (code : StatusCode) (body : String) :
    (errorOfBody code body).message =
      if wordsOfBody body ≠ [] then "; ".intercalate (wordsOfBody body)
      else if trim body ≠ "" then trim body
      else code.line := by
  rw [errorOfBody, serverMessage?_eq, phrase?, nonBlank?]
  dsimp only
  split_ifs <;> simp_all

/-- A refusal is told in the server's words. The message is all words of the preferred
member of the body, joined once; without any it is the trimmed body, and if that is empty the
status line. Two bodies that tell the same up to the member that is chosen make the same
message. -/
theorem refusal_told_in_server_words (code : StatusCode) (body : String) :
    (errorOfBody code body).message =
        (if wordsOfBody body ≠ [] then "; ".intercalate (wordsOfBody body)
        else if trim body ≠ "" then trim body
        else code.line) ∧
      ∀ other first second, Json.parse? body = some (.object first) →
        Json.parse? other = some (.object second) →
        AgreeUpTo Retold ["detail", "error", "message"] first second →
        (errorOfBody code other).message = (errorOfBody code body).message := by
  refine ⟨message_errorOfBody code body, ?_⟩
  intro other first second parsed parsedOther agree
  have words : wordsOfBody body = wordsOfBody other := by
    rw [wordsOfBody, wordsOfBody, parsed, parsedOther]
    exact agree.firstWords_eq fun a b => Retold.wordsIn_eq
  have some_ : wordsOfBody body ≠ [] := by
    obtain ⟨earlier, chosen, later, keys, some_, -⟩ := agree
    rw [wordsOfBody, parsed]
    exact firstWords_ne_nil (List.mem_map_of_mem (by simp [keys])) some_
  rw [message_errorOfBody, message_errorOfBody, ← words, if_pos some_, if_pos some_]

/-- How a list is nested, blank entries and what stands behind the chosen member make no
difference. -/
theorem refusal_told_in_server_words_nested :
    let plain := "\x7b\"detail\":[\"a\",\"b\"]\x7d"
    let nested := "\x7b\"detail\":[[\"a\",\" \"],\"b\"],\"error\":\"c\"\x7d"
    let first : List (String × Value) := [("detail", .list [.text "a", .text "b"])]
    let second : List (String × Value) :=
      [("detail", .list [.list [.text "a", .text " "], .text "b"]), ("error", .text "c")]
    Json.parse? plain = some (.object first) ∧ Json.parse? nested = some (.object second) ∧
      AgreeUpTo Retold ["detail", "error", "message"] first second ∧
      (errorOfBody .notFound nested).message = "a; b" := by
  intro plain nested first second
  have parsed : Json.parse? plain = some (.object first) := by cbv
  have parsedNested : Json.parse? nested = some (.object second) := by cbv
  have agree : AgreeUpTo Retold ["detail", "error", "message"] first second := by
    refine ⟨[], "detail", ["error", "message"], rfl, by decide, ?_⟩
    intro key within
    obtain rfl := List.mem_singleton.mp within
    refine .some ?_
    have silent : wordsIn (.text " ") = [] := by decide
    have opened := Retold.opened [] [.text "a", .text " "] [.text "b"]
    have dropped := Retold.dropped [.text "a"] [.text "b"] silent
    exact (opened.trans dropped).symm
  obtain ⟨told, same⟩ := refusal_told_in_server_words .notFound plain
  refine ⟨parsed, parsedNested, agree, ?_⟩
  rw [same nested first second parsed parsedNested agree, told, wordsOfBody, parsed]
  decide

end UtilityBilling.Api
