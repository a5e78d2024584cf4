import QueryFrame.Wire.Value

/-!
# The server's own types

A server comes with types of its own, which are known by fixed names. The types that users define
are not among them, so that a name alone says nothing about those.
-/

namespace QueryFrame.Wire

/-- The names of the server's own types, in the order of the numbers that the server has for
them. -/
def catalog : List String :=
  ["bool", "bytea", "char", "name", "int8", "int2", "int2vector", "int4", "regproc", "text", "oid",
    "tid", "xid", "cid", "oidvector", "pg_ddl_command", "json", "xml", "_xml", "pg_node_tree",
    "_json", "table_am_handler", "_xid8", "index_am_handler", "point", "lseg", "path", "box",
    "polygon", "line", "_line", "cidr", "_cidr", "float4", "float8", "unknown", "circle",
    "_circle", "macaddr8", "_macaddr8", "money", "_money", "macaddr", "inet", "_bool", "_bytea",
    "_char", "_name", "_int2", "_int2vector", "_int4", "_regproc", "_text", "_tid", "_xid", "_cid",
    "_oidvector", "_bpchar", "_varchar", "_int8", "_point", "_lseg", "_path", "_box", "_float4",
    "_float8", "_polygon", "_oid", "aclitem", "_aclitem", "_macaddr", "_inet", "bpchar", "varchar",
    "date", "time", "timestamp", "_timestamp", "_date", "_time", "timestamptz", "_timestamptz",
    "interval", "_interval", "_numeric", "_cstring", "timetz", "_timetz", "bit", "_bit", "varbit",
    "_varbit", "numeric", "refcursor", "_refcursor", "regprocedure", "regoper", "regoperator",
    "regclass", "regtype", "_regprocedure", "_regoper", "_regoperator", "_regclass", "_regtype",
    "record", "cstring", "any", "anyarray", "void", "trigger", "language_handler", "internal",
    "anyelement", "_record", "anynonarray", "_txid_snapshot", "uuid", "_uuid", "txid_snapshot",
    "fdw_handler", "pg_lsn", "_pg_lsn", "tsm_handler", "pg_ndistinct", "pg_dependencies",
    "anyenum", "tsvector", "tsquery", "gtsvector", "_tsvector", "_gtsvector", "_tsquery",
    "regconfig", "_regconfig", "regdictionary", "_regdictionary", "jsonb", "_jsonb", "anyrange",
    "event_trigger", "int4range", "_int4range", "numrange", "_numrange", "tsrange", "_tsrange",
    "tstzrange", "_tstzrange", "daterange", "_daterange", "int8range", "_int8range", "jsonpath",
    "_jsonpath", "regnamespace", "_regnamespace", "regrole", "_regrole", "regcollation",
    "_regcollation", "int4multirange", "nummultirange", "tsmultirange", "tstzmultirange",
    "datemultirange", "int8multirange", "anymultirange", "anycompatiblemultirange",
    "pg_brin_bloom_summary", "pg_brin_minmax_multi_summary", "pg_mcv_list", "pg_snapshot",
    "_pg_snapshot", "xid8", "anycompatible", "anycompatiblearray", "anycompatiblenonarray",
    "anycompatiblerange", "_int4multirange", "_nummultirange", "_tsmultirange", "_tstzmultirange",
    "_datemultirange", "_int8multirange"]

def ColumnType.ofName? (name : String) : Option ColumnType :=
  if name ∈ catalog then some (.ofName name) else none

end QueryFrame.Wire
