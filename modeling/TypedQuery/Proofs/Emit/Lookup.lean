-- SUMMARY: Writing looks types up in the schema and does nothing else with it.
import TypedQuery.Proofs.Emit.Courses

/-!
# Lookups

A page holds a whole schema, but writing only looks names up in it. So the same is written on pages
whose schemas find the same types, in whatever order they list them: `Op.content_runAll_under`.
-/
namespace TypedQuery

/-- The sheet with another schema. -/
def Sheet.under (sheet : Sheet) (schema : Schema) : Sheet := { sheet with schema }

variable {sheet : Sheet} {schema : Schema} {closed : Bool}

namespace Course

theorem ofNamed_under (h : schema.get? = sheet.schema.get?) {name : String}
    {standIn : Option String} :
    ofNamed (sheet.under schema) name standIn closed = ofNamed sheet name standIn closed := by
  simp only [ofNamed, Sheet.under, h]

theorem ofRef_under (h : schema.get? = sheet.schema.get?) {type : TypeRef}
    {standIn : Option String} :
    ofRef (sheet.under schema) standIn type closed = ofRef sheet standIn type closed := by
  induction type generalizing closed with
  | named name => exact ofNamed_under h
  | nonNull inner ih => exact ih
  | list item ih =>
    rw [ofRef, ofRef]
    simp only [ih]
    rfl

end Course

namespace Op

mutual

theorem course_under (h : schema.get? = sheet.schema.get?) : (op : Op) → (closed : Bool) →
    op.course (sheet.under schema) closed = op.course sheet closed
  | text _, _ | enter _ _, _ | leave, _ | leaveWith _, _ | separator _, _ | literal _, _
  | importStatement _, _ | importType _, _ | importField _, _ | closeImports, _
  | readonlyWord, _ => rfl
  | property _ type standIn, _ => by
    have href : Course.ofRef (sheet.under schema) standIn type = Course.ofRef sheet standIn type :=
      funext fun _ => Course.ofRef_under h
    rw [course, course, href]
    rfl
  | typeRef _ _, _ => Course.ofRef_under h
  | region kind multiline inside, closed => by
    rw [course, course, courseAll_under h inside closed]

theorem courseAll_under (h : schema.get? = sheet.schema.get?) : (ops : List Op) →
    (closed : Bool) → courseAll (sheet.under schema) ops closed = courseAll sheet ops closed
  | [], _ => rfl
  | op :: rest, closed => by
    rw [courseAll, courseAll, course_under h op closed, funext (courseAll_under h rest)]

end

end Op

namespace Page

variable {p : Page}

/-- The header of a page looks up where the imported types lie. -/
theorem content_under (h : schema.get? = p.schema.get?) :
    (p.under schema closed).content = p.content := by
  have hmodule : (p.under schema closed).modulePath? = p.modulePath? := by
    funext name
    unfold modulePath?
    rw [folderOf?_under h]
    rfl
  have hgroups : (p.under schema closed).importGroups = p.importGroups := by
    rw [importGroups, importGroups, hmodule]
    rfl
  rw [content, content, header, header, hgroups]
  rfl

end Page

/-- What is written on a fresh page depends on what the schema finds. -/
theorem Op.content_runAll_under (ops : List Op) (h : schema.get? = sheet.schema.get?) :
    (runAll ops (sheet.under schema).fresh).1 = (runAll ops sheet.fresh).1 ∧
      (runAll ops (sheet.under schema).fresh).2.content = (runAll ops sheet.fresh).2.content := by
  have hcourse : courseAll (sheet.under schema) ops false = courseAll sheet ops false :=
    courseAll_under h ops false
  have hafter : runAll ops (sheet.under schema).fresh =
      ((runAll ops sheet.fresh).1,
        (runAll ops sheet.fresh).2.under schema (courseAll sheet ops false).closed) := by
    rw [runAll_eq, runAll_eq]
    change ((courseAll (sheet.under schema) ops false).result,
      ((sheet.fresh.under schema false).perform (courseAll (sheet.under schema) ops false).acts).under
        schema (courseAll (sheet.under schema) ops false).closed) = _
    rw [hcourse, Page.perform_under h]
    rfl
  rw [hafter]
  exact ⟨rfl, Page.content_under (h.trans (congrArg _ (by rw [runAll_eq]; rfl)))⟩

end TypedQuery
