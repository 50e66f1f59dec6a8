import DevTools.Schema

namespace DevTools.Domain.DOMStorage

def types : List Declaration :=
  [ .record "StorageId"
      [ .required "security_origin" "securityOrigin" (.one .text),
        .required "is_local_storage" "isLocalStorage" (.one .boolean) ],
    .wrapper "Item" .list ]

def commands : List Command :=
  [ { name := "clear", method := "DOMStorage.clear",
      parameters :=
        [ .required "storage_id" "storageId" (.one (.ref "dom_storage" "StorageId")) ],
      returns := [] },
    { name := "disable", method := "DOMStorage.disable",
      parameters := [],
      returns := [] },
    { name := "enable", method := "DOMStorage.enable",
      parameters := [],
      returns := [] },
    { name := "get_dom_storage_items", method := "DOMStorage.getDOMStorageItems",
      parameters :=
        [ .required "storage_id" "storageId" (.one (.ref "dom_storage" "StorageId")) ],
      returns :=
        [ .required "entries" (.many (.ref "dom_storage" "Item")) ] },
    { name := "remove_dom_storage_item", method := "DOMStorage.removeDOMStorageItem",
      parameters :=
        [ .required "storage_id" "storageId" (.one (.ref "dom_storage" "StorageId")),
          .required "key" "key" (.one .text) ],
      returns := [] },
    { name := "set_dom_storage_item", method := "DOMStorage.setDOMStorageItem",
      parameters :=
        [ .required "storage_id" "storageId" (.one (.ref "dom_storage" "StorageId")),
          .required "key" "key" (.one .text),
          .required "value" "value" (.one .text) ],
      returns := [] } ]

def events : List Event :=
  [ { name := "DomStorageItemAdded", method := "DOMStorage.domStorageItemAdded",
      fields :=
        [ .required "storage_id" "storageId" (.one (.ref "dom_storage" "StorageId")),
          .required "key" "key" (.one .text),
          .required "new_value" "newValue" (.one .text) ] },
    { name := "DomStorageItemRemoved", method := "DOMStorage.domStorageItemRemoved",
      fields :=
        [ .required "storage_id" "storageId" (.one (.ref "dom_storage" "StorageId")),
          .required "key" "key" (.one .text) ] },
    { name := "DomStorageItemUpdated", method := "DOMStorage.domStorageItemUpdated",
      fields :=
        [ .required "storage_id" "storageId" (.one (.ref "dom_storage" "StorageId")),
          .required "key" "key" (.one .text),
          .required "old_value" "oldValue" (.one .text),
          .required "new_value" "newValue" (.one .text) ] },
    { name := "DomStorageItemsCleared", method := "DOMStorage.domStorageItemsCleared",
      fields :=
        [ .required "storage_id" "storageId" (.one (.ref "dom_storage" "StorageId")) ] } ]

def domain : DevTools.Domain where
  name := "DOMStorage"
  scope := "dom_storage"
  types := types
  commands := commands
  events := events

end DevTools.Domain.DOMStorage
