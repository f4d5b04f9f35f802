import Daybook.Proofs.Calendar
import Daybook.Proofs.Grouping.Iteration
import Daybook.Service.Answer

/-!
# What replies tell

The encoding of a document leaves nothing out: documents that are told alike are the same, and so
are pages that are answered alike.  No object in an answer names two of its members alike, so a
client that looks its members up by their names finds all of them.
-/

namespace Daybook

open Document
open Grouping (Shape)

theorem Date.toString_inj {d e : Date} : toString d = toString e ↔ d = e := by
  refine ⟨fun h => Option.some.inj ?_, congrArg toString⟩
  calc some d
    _ = read? d.text := d.read?_text.symm
    _ = read? e.text := congrArg read? (String.ofList_injective h)
    _ = some e := e.read?_text

namespace Document

open Json (ofOption_inj)

attribute [local simp] Int32.toInt_inj Int64.toInt_inj Date.toString_inj ofOption_inj
  List.map_inj_right

/-! ## Parts of documents -/

@[simp] theorem ValueType.name_inj {a b : ValueType} : a.name = b.name ↔ a = b := by
  cases a <;> cases b <;> decide

@[simp] theorem TermLine.json_inj {a b : TermLine} : a.json = b.json ↔ a = b := by
  cases a
  cases b
  simp [json]

@[simp] theorem Account.json_inj {a b : Account} : a.json = b.json ↔ a = b := by
  cases a
  cases b
  simp [json]

@[simp] theorem JournalLine.json_inj {a b : JournalLine} : a.json = b.json ↔ a = b := by
  cases a
  cases b
  simp [json]

@[simp] theorem Customer.json_inj {a b : Customer} : a.json = b.json ↔ a = b := by
  cases a
  cases b
  simp [json]

@[simp] theorem PaymentTermRef.json_inj {a b : PaymentTermRef} : a.json = b.json ↔ a = b := by
  cases a
  cases b
  simp [json]

@[simp] theorem PaymentTermRef.json_ne_null (term : PaymentTermRef) : term.json ≠ .null :=
  Json.noConfusion

@[simp] theorem QuotationRef.json_inj {a b : QuotationRef} : a.json = b.json ↔ a = b := by
  cases a
  cases b
  simp [json]

@[simp] theorem LineItem.json_inj {a b : LineItem} : a.json = b.json ↔ a = b := by
  cases a
  cases b
  simp [json]

/-! ## Documents -/

theorem PaymentTerm.json_inj {a b : PaymentTerm} : a.json = b.json ↔ a = b := by
  obtain ⟨⟨⟩, _⟩ := a
  obtain ⟨⟨⟩, _⟩ := b
  simp [json, and_assoc]

theorem JournalEntry.json_inj {a b : JournalEntry} : a.json = b.json ↔ a = b := by
  obtain ⟨⟨⟩, _⟩ := a
  obtain ⟨⟨⟩, _⟩ := b
  simp [json, and_assoc]

-- The discount and the delivery fee of the header are told among the totals only.
theorem Quotation.of_inj_of_json {header other : QuotationHeader} {items others : List LineItem}
    (h : (of header items).json = (of other others).json) : header = other ∧ items = others := by
  obtain ⟨⟩ := header
  obtain ⟨⟩ := other
  simp [of, json, Totals.members, Totals.of] at h
  simp [h]

/-- Of an order the parts come back from the document, also those the totals are made of. -/
theorem SalesOrder.of_inj_of_json {header other : SalesOrderHeader} {items others : List LineItem}
    {lines otherLines : List TermLine}
    (h : (of header items lines).json = (of other others otherLines).json) :
    header = other ∧ items = others ∧ lines = otherLines := by
  obtain ⟨⟩ := header
  obtain ⟨⟩ := other
  simp [of, json, Totals.members, Totals.of] at h
  simp [h]

/-! ## Names of members -/

@[simp] theorem TermLine.distinct_json (line : TermLine) : line.json.Distinct :=
  .object (by simp) (by simp)

@[simp] theorem Account.distinct_json (account : Account) : account.json.Distinct :=
  .object (by simp) (by simp)

@[simp] theorem JournalLine.distinct_json (line : JournalLine) : line.json.Distinct :=
  .object (by simp) (by simp)

@[simp] theorem Customer.distinct_json (customer : Customer) : customer.json.Distinct :=
  .object (by simp) (by simp)

@[simp] theorem PaymentTermRef.distinct_json (term : PaymentTermRef) : term.json.Distinct :=
  .object (by simp) (by simp)

@[simp] theorem QuotationRef.distinct_json (quotation : QuotationRef) : quotation.json.Distinct :=
  .object (by simp) (by simp)

@[simp] theorem LineItem.distinct_json (item : LineItem) : item.json.Distinct :=
  .object (by simp) (by simp)

@[simp] theorem Installment.distinct_json (installment : Installment) :
    installment.json.Distinct := .object (by simp) (by simp)

theorem PaymentTerm.distinct_json (term : PaymentTerm) : term.json.Distinct :=
  .object (by simp) (by simp)

theorem JournalEntry.distinct_json (entry : JournalEntry) : entry.json.Distinct :=
  .object (by simp) (by simp)

theorem Quotation.distinct_json (quotation : Quotation) : quotation.json.Distinct :=
  .object (by simp [Totals.members]) (by simp [Totals.members])

theorem SalesOrder.distinct_json (order : SalesOrder) : order.json.Distinct :=
  .object (by simp [Totals.members]) (by simp [Totals.members])

end Document

/-! ## Documents that rows make -/

namespace Grouping.Shape

universe u v w x

variable {Row : Type u} {Key : Type v} {State : Type w} {Out : Type x} [BEq Key]
  {shape : Shape Row Key State Out} {rows : List Row} {outs : List Out}

/-- What a cursor gives is what the whole list gives. -/
theorem group_of_iterates (h : shape.Iterates rows outs) : shape.group rows = outs := by
  apply List.ext_getElem?
  intro k
  have hcalls := (shape.iterates_group rows (k + 1)).symm.trans (h (k + 1))
  rw [List.range_succ, List.map_append, List.map_append] at hcalls
  exact List.singleton_inj.mp (List.append_inj' hcalls rfl).2

-- Whatever a cursor gives is what the shape makes of a state.
theorem exists_close_of_iterates [EquivBEq Key] (h : shape.Iterates rows outs) {out : Out}
    (hout : out ∈ outs) : ∃ state, shape.close state = out := by
  have hsome : some out ∈ (shape.runs rows).map shape.runDocument? := by
    rw [← shape.group_map_some, group_of_iterates h]
    exact List.mem_map_of_mem hout
  obtain ⟨run, -, hrun⟩ := List.mem_map.mp hsome
  obtain ⟨first, -, hclose⟩ := Option.map_eq_some_iff.mp hrun
  exact ⟨_, hclose⟩

end Grouping.Shape

namespace Resource.Kind

/-- Documents that are told alike are the same.  What a quotation or a sales order says of discount
and fee is told once, among its totals, which were made from it. -/
theorem close_inj_of_json (kind : Kind) {s t : kind.resource.State}
    (h : kind.resource.json (kind.resource.shape.close s) =
      kind.resource.json (kind.resource.shape.close t)) :
    kind.resource.shape.close s = kind.resource.shape.close t := by
  cases kind with
  | paymentTerm => exact PaymentTerm.json_inj.mp h
  | journalEntry => exact JournalEntry.json_inj.mp h
  | quotation =>
    obtain ⟨hheader, hitems⟩ := Quotation.of_inj_of_json h
    exact congrArg₂ Quotation.of hheader hitems
  | salesOrder =>
    obtain ⟨hheader, hitems, hlines⟩ := SalesOrder.of_inj_of_json h
    show SalesOrder.of _ _ _ = SalesOrder.of _ _ _
    rw [hheader, hitems, hlines]

section

variable {kind : Kind} {rows otherRows : List kind.resource.Row}
  {documents others : List kind.resource.Out}

theorem eq_of_json (hdocuments : kind.resource.shape.Iterates rows documents)
    (hothers : kind.resource.shape.Iterates otherRows others) {document other : kind.resource.Out}
    (hdocument : document ∈ documents) (hother : other ∈ others)
    (h : kind.resource.json document = kind.resource.json other) : document = other := by
  obtain ⟨s, rfl⟩ := Shape.exists_close_of_iterates hdocuments hdocument
  obtain ⟨t, rfl⟩ := Shape.exists_close_of_iterates hothers hother
  exact kind.close_inj_of_json h

/-- Lists of documents that rows make are told apart by what is told of each document. -/
theorem eq_of_map_json (hdocuments : kind.resource.shape.Iterates rows documents)
    (hothers : kind.resource.shape.Iterates otherRows others)
    (h : documents.map kind.resource.json = others.map kind.resource.json) :
    documents = others := by
  have hlength : documents.length = others.length := by simpa using congrArg List.length h
  refine List.ext_getElem hlength fun i hi hother => ?_
  apply eq_of_json hdocuments hothers (List.getElem_mem hi) (List.getElem_mem hother)
  have hget : (documents.map kind.resource.json)[i]? = (others.map kind.resource.json)[i]? := by
    rw [h]
  simpa [hi, hother] using hget

end

/-- No document writes a member twice. -/
theorem distinct_json (kind : Kind) (document : kind.resource.Out) :
    (kind.resource.json document).Distinct := by
  cases kind with
  | paymentTerm => exact PaymentTerm.distinct_json document
  | journalEntry => exact JournalEntry.distinct_json document
  | quotation => exact Quotation.distinct_json document
  | salesOrder => exact SalesOrder.distinct_json document

end Resource.Kind

/-! ## Replies -/

namespace Service

theorem Envelope.distinct_json (envelope : Envelope) (h : envelope.data.Distinct) :
    envelope.json.Distinct := .object (by simp) (by simp [h])

-- A reply in an envelope shows the data that went into it.
theorem data_of_reply {data other : Json} (h : (Envelope.ok data).reply.body =
    (Envelope.ok other).reply.body) : data = other := by
  simpa [Envelope.reply, Envelope.json, Envelope.ok, Http.Reply.ofJson] using h

/-- Two answers that are alike, of a listing or a look-up, told of the same documents, and of the
same number of them on all pages.  No object in them names two of its members alike. -/
theorem documents_of_replies (kind : Resource.Kind) {rows otherRows : List kind.resource.Row}
    {documents others : List kind.resource.Out}
    (hdocuments : kind.resource.shape.Iterates rows documents)
    (hothers : kind.resource.shape.Iterates otherRows others) :
    (∀ total otherTotal, pageReply kind.resource.json ⟨documents, total⟩ =
        pageReply kind.resource.json ⟨others, otherTotal⟩ →
      documents = others ∧ total = otherTotal) ∧
    (∀ document ∈ documents, ∀ other ∈ others, documentReply kind.resource.json document =
        documentReply kind.resource.json other → document = other) ∧
    (∀ total, ∀ body ∈ (pageReply kind.resource.json ⟨documents, total⟩).body, body.Distinct) ∧
      ∀ document, ∀ body ∈ (documentReply kind.resource.json document).body, body.Distinct := by
  refine ⟨fun total otherTotal h => ?_, fun document hdocument other hother h => ?_, ?_, ?_⟩
  · have hbody := congrArg (fun reply : Http.Reply => reply.body) h
    have htotal := congrArg (fun reply : Http.Reply => reply.totalCount) h
    have hitems : documents.map kind.resource.json = others.map kind.resource.json :=
      Json.array.inj (data_of_reply hbody)
    exact ⟨Resource.Kind.eq_of_map_json hdocuments hothers hitems, Option.some.inj htotal⟩
  · have hbody := congrArg (fun reply : Http.Reply => reply.body) h
    exact Resource.Kind.eq_of_json hdocuments hothers hdocument hother (data_of_reply hbody)
  · rintro total body ⟨⟩
    exact Envelope.distinct_json _ (.array_map kind.distinct_json documents)
  · rintro document body ⟨⟩
    exact Envelope.distinct_json _ (kind.distinct_json document)

end Service

end Daybook
