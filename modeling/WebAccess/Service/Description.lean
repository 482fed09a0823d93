import WebAccess.Service
import WebAccess.Text.Quoted

/-!
# The description of a service

The text that shows a service without a cache to a developer: its resolver and its configuration,
field by field.
-/

set_option autoImplicit false

namespace WebAccess

/-- A named value with its fields between braces. -/
def describeFields (name : String) (fields : List (String × String)) : String :=
  name ++ " \x7b " ++ ", ".intercalate (fields.map fun f => f.1 ++ ": " ++ f.2) ++ " \x7d"

/-- The description of a set of names. -/
def NameSet.describe (s : NameSet) : String :=
  "\x7b" ++ ", ".intercalate (s.toList.map Text.quoted) ++ "\x7d"

/-- The description of the limits of a cache. -/
def CacheLimits.describe (l : CacheLimits) : String :=
  describeFields "CacheConfig"
    [("max_entries", toString l.maxEntries), ("ttl", Duration.describe l.timeToLive)]

/-- The description of a configuration. -/
def ServiceConfig.describe (c : ServiceConfig) : String :=
  describeFields "WebacConfig"
    [("root", Text.quoted c.root), ("administrator_agent", Text.quoted c.administrator),
      ("admin_agents", c.admins.describe), ("anonymous_agent", Text.quoted c.anonymous),
      ("initialize_root_acl", toString c.initializeRoot), ("cache_config", c.cache.describe)]

/-- The description of a service; a cache has none. -/
def Service.describe? (s : Service) : Option String :=
  match s.cache with
  | some _ => none
  | none =>
    some <| describeFields "WebacService"
      [("resolver", "AuthorizationResolver \x7b anonymous_agent: " ++
          Text.quoted s.config.anonymous ++ ", .. \x7d"),
        ("cache", "None"), ("config", s.config.describe)]

end WebAccess
