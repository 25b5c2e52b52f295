import SwitchFleet.Json.Codec
import SwitchFleet.Proofs.Json.Tokens

/-!
# Values read back from their texts

* `Document.proceed`: what becomes of a document that is complete, inside of what is still open.
* **`read_tokensOf`**: the tokens of a value are read as the document of the value.
* **`ofText_render`**: the text of a value is read as the document of the value, up to its end.
-/

namespace SwitchFleet

namespace Document

open Json (Token)

/-- What becomes of a document that is complete: it is the result, or part of what is still open. -/
def proceed (d : Document) (ts : List Token) : List Frame → Document × List Token
  | [] => (d, ts)
  | f :: stack => read .next (f.push d :: stack) ts

theorem read_scalar {t : Token} {d : Document} (ht : scalar? t = some d) (stack : List Frame)
    (ts : List Token) : read .value stack (t :: ts) = proceed d ts stack := by
  cases t <;> cases ht <;> cases stack <;> rfl

theorem read_firstItem (v : Json) (stack : List Frame) (ts : List Token) :
    read .firstItem stack (v.tokensOf ++ ts) = read .value stack (v.tokensOf ++ ts) := by
  cases v <;> cases stack <;> rfl

theorem read_close (items : List Document) (stack : List Frame) (ts : List Token) :
    read .next (.array items :: stack) (.closeArray :: ts) =
      proceed (.array items.reverse) ts stack := by
  cases stack <;> rfl

theorem read_closeObject (members : List (Option String × Document)) (stack : List Frame)
    (ts : List Token) :
    read .next (.object members :: stack) (.closeObject :: ts) =
      proceed (.object members.reverse) ts stack := by
  cases stack <;> rfl

mutual

/-- **Tokens read back.** The tokens of a value are read as its document. -/
theorem read_tokensOf (v : Json) (stack : List Frame) (ts : List Token) :
    read .value stack (v.tokensOf ++ ts) = proceed v.document ts stack := by
  cases v with
  | null | bool | number | string => exact read_scalar rfl stack ts
  | array xs =>
    match xs with
    | [] => cases stack <;> rfl
    | x :: xs =>
      have hopen : (Json.array (x :: xs)).tokensOf ++ ts =
          .openArray :: (Json.itemTokens (x :: xs) ++ .closeArray :: ts) := by
        simp [Json.tokensOf]
      have hfirst : read .value stack (.openArray :: (Json.itemTokens (x :: xs) ++
          .closeArray :: ts)) =
          read .firstItem (.array [] :: stack) (Json.itemTokens (x :: xs) ++ .closeArray :: ts) := by
        cases stack <;> rfl
      have hvalue : read .firstItem (.array [] :: stack)
          (Json.itemTokens (x :: xs) ++ .closeArray :: ts) =
          read .value (.array [] :: stack) (Json.itemTokens (x :: xs) ++ .closeArray :: ts) := by
        cases xs with
        | nil => exact read_firstItem x _ _
        | cons y xs =>
          rw [Json.itemTokens, List.append_assoc]
          exact read_firstItem x _ _
      rw [hopen, hfirst, hvalue, read_itemTokens (x :: xs) (List.cons_ne_nil _ _)]
      rfl
  | object ms =>
    match ms with
    | [] => cases stack <;> rfl
    | (k, x) :: ms =>
      have hopen : (Json.object ((k, x) :: ms)).tokensOf ++ ts =
          .openObject :: (Json.memberTokens ((k, x) :: ms) ++ .closeObject :: ts) := by
        simp [Json.tokensOf]
      have hfirst : read .value stack (.openObject :: (Json.memberTokens ((k, x) :: ms) ++
          .closeObject :: ts)) =
          read .name (.object [] :: stack)
            (Json.memberTokens ((k, x) :: ms) ++ .closeObject :: ts) := by
        cases stack <;> cases ms <;> rfl
      rw [hopen, hfirst, read_memberTokens ((k, x) :: ms) (List.cons_ne_nil _ _)]
      rfl

theorem read_itemTokens (xs : List Json) (hne : xs ≠ []) (items : List Document)
    (stack : List Frame) (ts : List Token) :
    read .value (.array items :: stack) (Json.itemTokens xs ++ .closeArray :: ts) =
      proceed (.array (items.reverse ++ Json.itemDocuments xs)) ts stack := by
  match xs, hne with
  | [x], _ =>
    rw [Json.itemTokens, read_tokensOf x, proceed, Frame.push, read_close, List.reverse_cons]
    rfl
  | x :: y :: xs, _ =>
    have hnext (d : Document) : proceed d (.comma :: (Json.itemTokens (y :: xs) ++
        .closeArray :: ts)) (.array items :: stack) =
        read .value (.array (d :: items) :: stack)
          (Json.itemTokens (y :: xs) ++ .closeArray :: ts) := rfl
    rw [Json.itemTokens, List.append_assoc, List.cons_append, read_tokensOf x, hnext,
      read_itemTokens (y :: xs) (List.cons_ne_nil _ _), List.reverse_cons, List.append_assoc]
    rfl

theorem read_memberTokens (ms : List (String × Json)) (hne : ms ≠ [])
    (members : List (Option String × Document)) (stack : List Frame) (ts : List Token) :
    read .name (.object members :: stack) (Json.memberTokens ms ++ .closeObject :: ts) =
      proceed (.object (members.reverse ++ Json.memberDocuments ms)) ts stack := by
  have hname (k : String) (ts : List Token) :
      read .name (.object members :: stack) (.string (some k) :: .colon :: ts) =
        read .value (.member members (some k) :: stack) ts := rfl
  match ms, hne with
  | [(k, x)], _ =>
    rw [Json.memberTokens, List.cons_append, List.cons_append, hname, read_tokensOf x, proceed,
      Frame.push, read_closeObject, List.reverse_cons]
    rfl
  | (k, x) :: m :: ms, _ =>
    have hnext (d : Document) : proceed d (.comma :: (Json.memberTokens (m :: ms) ++
        .closeObject :: ts)) (.member members (some k) :: stack) =
        read .name (.object ((some k, d) :: members) :: stack)
          (Json.memberTokens (m :: ms) ++ .closeObject :: ts) := rfl
    rw [Json.memberTokens, List.cons_append, List.cons_append, hname, List.append_assoc,
      List.cons_append, read_tokensOf x, hnext,
      read_memberTokens (m :: ms) (List.cons_ne_nil _ _), List.reverse_cons, List.append_assoc]
    rfl

end

end Document

/-- **Texts read back.** The text of a value is read as its document, up to its end. -/
theorem Json.ofText_render {v : Json} (hv : v.Printable) :
    Reading.ofText v.render = ⟨v.document, true⟩ := by
  have htokens := Json.tokens_chars v hv Json.ends_nil
  have hread := Document.read_tokensOf v [] (Json.tokens [])
  rw [List.append_nil] at htokens
  unfold Reading.ofText Json.render
  rw [String.toList_ofList, htokens, hread, Json.tokens]
  rfl

theorem Codec.decodeText_render {α : Type} (c : Codec α) {v : Json} (hv : v.Printable) :
    c.decodeText v.render = c.decodeJson v := by
  unfold Codec.decodeText Codec.decodeJson
  rw [Json.ofText_render hv]
  dsimp only
  cases c.decode v.document <;> rfl

end SwitchFleet
