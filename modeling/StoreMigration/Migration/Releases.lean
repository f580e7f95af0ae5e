import StoreMigration.Migration.Registry
import StoreMigration.Migration.FieldEdit

/-! The releases of the product and what each of them changed, in the order in
which they shipped. Release 2.10.0 shipped before the maintenance release 2.9.3, and
a store at 2.9.x has to pick up both. -/

namespace StoreMigration.Releases

def appSchemaVersion : String := "2.16.0"

def emptyObject : Json := .object []

/-- The releases after the one that is too old, each with its transforms. -/
def shipped : List (Version × List Transform) :=
  [(.release 1 21 0,
      [.backfill "update_users_to_db_18" "users" "PortainerAuthorizations" emptyObject,
        .backfill "update_endpoints_to_db_18" "endpoints" "Authorizations" emptyObject,
        .backfill "update_endpoint_groups_to_db_18" "endpoint_groups" "Authorizations"
          emptyObject,
        .backfill "update_registries_to_db_18" "registries" "UserAccessPolicies" emptyObject]),
    (.release 1 22 0,
      [.backfill "update_settings_to_db_19" "settings" "AllowVolumeBrowserForRegularUsers"
        (.bool false)]),
    (.release 1 22 1,
      [.backfill "update_users_to_db_20" "users" "EndpointAuthorizations" emptyObject,
        .backfill "update_settings_to_db_20" "settings" "AllowDeviceMappingForRegularUsers"
          (.bool true),
        .drop "update_schedules_to_db_20" "schedules" "EndpointSyncJob"]),
    (.release 1 23 0,
      [.backfill "update_resource_controls_to_db_22" "resource_control" "AdministratorsOnly"
          (.bool false),
        .backfill "update_users_and_roles_to_db_22" "roles" "Priority" (.integer 0)]),
    (.release 1 24 0,
      [.backfill "update_tags_to_db_23" "tags" "Endpoints" emptyObject,
        .backfill "update_endpoints_and_endpoint_groups_to_db_23" "endpoints" "TagIds"
          (.array [])]),
    (.release 1 24 1,
      [.backfill "update_settings_to_db_24" "settings" "AllowHostNamespaceForRegularUsers"
        (.bool true)]),
    (.release 2 0 0,
      [.backfill "update_settings_to_db_25" "settings" "UserSessionTimeout" (.string "8h"),
        .backfill "update_stacks_to_db_24" "stacks" "Status" (.integer 1)]),
    (.release 2 1 0,
      [.backfill "update_endpoint_settings_to_db_25" "endpoints" "SecuritySettings"
        emptyObject]),
    (.release 2 2 0,
      [.rename "update_stack_resource_control_to_db_27" "resource_control" "ResourceId"
        "ResourceID"]),
    (.release 2 6 0, [.backfill "migrate_db_to_30" "endpoints" "Kubernetes" emptyObject]),
    (.release 2 9 0,
      [.backfill "migrate_db_to_32" "settings" "HelmRepositoryURL"
        (.string "https://charts.bitnami.com/bitnami")]),
    (.release 2 9 2, [.backfill "migrate_db_to_33" "endpoints" "Gpus" (.array [])]),
    (.release 2 10 0, [.backfill "migrate_db_to_34" "stacks" "GitConfig" .null]),
    (.release 2 9 3, [.backfill "migrate_db_to_35" "users" "TokenIssueAt" (.integer 0)]),
    (.release 2 12 0,
      [.drop "migrate_db_to_36" "settings" "AllowPrivilegedModeForRegularUsers"]),
    (.release 2 13 0,
      [.backfill "migrate_db_to_40" "endpoints" "EdgeCheckinInterval" (.integer 0)]),
    (.release 2 14 0,
      [.backfill "migrate_db_to_50" "settings" "InternalAuthSettings"
        (.object [("RequiredPasswordLength", .integer 12)])]),
    (.release 2 15 0,
      [.backfill "migrate_db_to_60" "edge_stacks" "UseManifestNamespaces" (.bool false)])]

def descriptor (release : Version × List Transform) : Descriptor :=
  ⟨release.1, release.2.map Transform.step⟩

def registry : Registry :=
  ⟨Registry.floor (.release 1 0 0) :: shipped.map descriptor⟩

end StoreMigration.Releases
