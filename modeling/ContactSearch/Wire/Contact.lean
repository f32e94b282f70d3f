import ContactSearch.Contact
import ContactSearch.Deal.Basic
import ContactSearch.Wire.Single

/-!
# Contacts, deals and organizations in data
-/

namespace ContactSearch

open Wire

/-- Contacts in data. -/
def Contact.schema : Schema Contact :=
  .record <| Fields.nil Contact.mk
    |>.required "id" "id" .integer Contact.id
    |>.withDefault "first_name" "firstName" .text "" Contact.firstName
    |>.withDefault "last_name" "lastName" .text "" Contact.lastName
    |>.maybe "title" "title" .text Contact.title
    |>.maybe "org" "org" .text Contact.org
    |>.maybe "org_id" "orgId" .integer Contact.orgId
    |>.maybe "org_kind" "orgKind" .text Contact.orgKind
    |>.maybe "email" "email" .text Contact.email
    |>.withDefault "warmth" "warmth" .warmth .cold Contact.warmth
    |>.maybe "source" "source" .text Contact.source
    |>.withDefault "tags" "tags" (.list .text) [] Contact.tags
    |>.maybe "city" "city" .text Contact.city
    |>.maybe "state" "state" .text Contact.state
    |>.maybe "country" "country" .text Contact.country
    |>.required "created_at" "createdAt" .timestamp Contact.createdAt
    |>.maybe "last_contacted_at" "lastContactedAt" .timestamp Contact.lastContactedAt

/-- Deals in data. -/
def Deal.schema : Schema Deal :=
  .record <| Fields.nil Deal.mk
    |>.required "id" "id" .integer Deal.id
    |>.withDefault "name" "name" .text "" Deal.name
    |>.maybe "sector" "sector" .text Deal.sector
    |>.withDefault "status" "status" .text "" Deal.status
    |>.withDefault "kind" "kind" .text "" Deal.kind

/-- Organizations in data. -/
def Organization.schema : Schema Organization :=
  .record <| Fields.nil Organization.mk
    |>.required "id" "id" .integer Organization.id
    |>.withDefault "name" "name" .text "" Organization.name
    |>.withDefault "kind" "kind" .text "" Organization.kind
    |>.maybe "sector" "sector" .text Organization.sector

end ContactSearch
